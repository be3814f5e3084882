import Notary.Digest.Blake2b

namespace Notary.Digest.Argon2

/-!
# Argon2

The three variants of the memory-hard password digest, in both of its versions.
The memory is an array of blocks of 1024 bytes, cut into lanes of four segments
each; every block is computed from the one before it and one that the variant
chooses, either from the contents of the memory or from a counter.
-/

/-- Which blocks are chosen by contents: all, none, or all but the first half of the first pass. -/
inductive Variant where
  | d
  | i
  | id
deriving Repr, DecidableEq

namespace Variant

/-- The number of a variant in the digest of the inputs. -/
def number : Variant → Nat
  | d => 0
  | i => 1
  | id => 2

end Variant

/-- Whether a pass over the memory overwrites the blocks or adds to them. -/
inductive Version where
  | overwriting
  | adding
deriving Repr, DecidableEq

namespace Version

/-- The number of a version. -/
def number : Version → Nat
  | overwriting => 16
  | adding => 19

end Version

/-- The costs of a digest and what goes into it beside the password and the salt. -/
structure Settings where
  variant : Variant
  version : Version
  /-- Memory in blocks. -/
  memory : Nat
  passes : Nat
  lanes : Nat
  /-- Length of the digest in bytes. -/
  size : Nat
  associated : List UInt8
deriving Repr, DecidableEq

/-- A block of memory: eight rows of sixteen words. -/
structure Block where
  r0 : Words
  r1 : Words
  r2 : Words
  r3 : Words
  r4 : Words
  r5 : Words
  r6 : Words
  r7 : Words
deriving Inhabited

namespace Block

/-- A block of zeros. -/
def zero : Block :=
  ⟨.zero, .zero, .zero, .zero, .zero, .zero, .zero, .zero⟩

/-- Combine two blocks with exclusive or. -/
def xor (x y : Block) : Block :=
  ⟨x.r0.xor y.r0, x.r1.xor y.r1, x.r2.xor y.r2, x.r3.xor y.r3,
    x.r4.xor y.r4, x.r5.xor y.r5, x.r6.xor y.r6, x.r7.xor y.r7⟩

/-- The words of a block in order. -/
def toList (x : Block) : List UInt64 :=
  x.r0.toList ++ x.r1.toList ++ x.r2.toList ++ x.r3.toList ++
    x.r4.toList ++ x.r5.toList ++ x.r6.toList ++ x.r7.toList

/-- The block of 128 words. -/
def ofList (ws : List UInt64) : Block :=
  ⟨.ofList ws, .ofList (ws.drop 16), .ofList (ws.drop 32), .ofList (ws.drop 48),
    .ofList (ws.drop 64), .ofList (ws.drop 80), .ofList (ws.drop 96), .ofList (ws.drop 112)⟩

/-- The word at a place. -/
def get (x : Block) (place : Nat) : UInt64 :=
  let column := place % 16
  match place / 16 with
  | 0 => x.r0.get column
  | 1 => x.r1.get column
  | 2 => x.r2.get column
  | 3 => x.r3.get column
  | 4 => x.r4.get column
  | 5 => x.r5.get column
  | 6 => x.r6.get column
  | _ => x.r7.get column

end Block

/-- The sum of two words and twice the product of their lower halves. -/
@[inline] def blend (x y : UInt64) : UInt64 :=
  x + y + 2 * ((x &&& 0xFFFFFFFF) * (y &&& 0xFFFFFFFF))

/-- Mix four words. -/
@[inline] def mix (a b c d : UInt64) : Quad :=
  let a := blend a b
  let d := rotateRight (d ^^^ a) 32
  let c := blend c d
  let b := rotateRight (b ^^^ c) 24
  let a := blend a b
  let d := rotateRight (d ^^^ a) 16
  let c := blend c d
  let b := rotateRight (b ^^^ c) 63
  ⟨a, b, c, d⟩

/-- Mix sixteen words: the columns of their square, then its diagonals. -/
def permute (v : Words) : Words :=
  let ⟨v0, v4, v8, v12⟩ := mix v.w0 v.w4 v.w8 v.w12
  let ⟨v1, v5, v9, v13⟩ := mix v.w1 v.w5 v.w9 v.w13
  let ⟨v2, v6, v10, v14⟩ := mix v.w2 v.w6 v.w10 v.w14
  let ⟨v3, v7, v11, v15⟩ := mix v.w3 v.w7 v.w11 v.w15
  let ⟨v0, v5, v10, v15⟩ := mix v0 v5 v10 v15
  let ⟨v1, v6, v11, v12⟩ := mix v1 v6 v11 v12
  let ⟨v2, v7, v8, v13⟩ := mix v2 v7 v8 v13
  let ⟨v3, v4, v9, v14⟩ := mix v3 v4 v9 v14
  ⟨v0, v1, v2, v3, v4, v5, v6, v7, v8, v9, v10, v11, v12, v13, v14, v15⟩

/-- Mix the eight columns of a block, each two words wide. -/
def permuteColumns (x : Block) : Block :=
  let c0 := permute ⟨x.r0.w0, x.r0.w1, x.r1.w0, x.r1.w1, x.r2.w0, x.r2.w1, x.r3.w0, x.r3.w1,
    x.r4.w0, x.r4.w1, x.r5.w0, x.r5.w1, x.r6.w0, x.r6.w1, x.r7.w0, x.r7.w1⟩
  let c1 := permute ⟨x.r0.w2, x.r0.w3, x.r1.w2, x.r1.w3, x.r2.w2, x.r2.w3, x.r3.w2, x.r3.w3,
    x.r4.w2, x.r4.w3, x.r5.w2, x.r5.w3, x.r6.w2, x.r6.w3, x.r7.w2, x.r7.w3⟩
  let c2 := permute ⟨x.r0.w4, x.r0.w5, x.r1.w4, x.r1.w5, x.r2.w4, x.r2.w5, x.r3.w4, x.r3.w5,
    x.r4.w4, x.r4.w5, x.r5.w4, x.r5.w5, x.r6.w4, x.r6.w5, x.r7.w4, x.r7.w5⟩
  let c3 := permute ⟨x.r0.w6, x.r0.w7, x.r1.w6, x.r1.w7, x.r2.w6, x.r2.w7, x.r3.w6, x.r3.w7,
    x.r4.w6, x.r4.w7, x.r5.w6, x.r5.w7, x.r6.w6, x.r6.w7, x.r7.w6, x.r7.w7⟩
  let c4 := permute ⟨x.r0.w8, x.r0.w9, x.r1.w8, x.r1.w9, x.r2.w8, x.r2.w9, x.r3.w8, x.r3.w9,
    x.r4.w8, x.r4.w9, x.r5.w8, x.r5.w9, x.r6.w8, x.r6.w9, x.r7.w8, x.r7.w9⟩
  let c5 := permute ⟨x.r0.w10, x.r0.w11, x.r1.w10, x.r1.w11, x.r2.w10, x.r2.w11, x.r3.w10, x.r3.w11,
    x.r4.w10, x.r4.w11, x.r5.w10, x.r5.w11, x.r6.w10, x.r6.w11, x.r7.w10, x.r7.w11⟩
  let c6 := permute ⟨x.r0.w12, x.r0.w13, x.r1.w12, x.r1.w13, x.r2.w12, x.r2.w13, x.r3.w12, x.r3.w13,
    x.r4.w12, x.r4.w13, x.r5.w12, x.r5.w13, x.r6.w12, x.r6.w13, x.r7.w12, x.r7.w13⟩
  let c7 := permute ⟨x.r0.w14, x.r0.w15, x.r1.w14, x.r1.w15, x.r2.w14, x.r2.w15, x.r3.w14, x.r3.w15,
    x.r4.w14, x.r4.w15, x.r5.w14, x.r5.w15, x.r6.w14, x.r6.w15, x.r7.w14, x.r7.w15⟩
  { r0 := ⟨c0.w0, c0.w1, c1.w0, c1.w1, c2.w0, c2.w1, c3.w0, c3.w1,
      c4.w0, c4.w1, c5.w0, c5.w1, c6.w0, c6.w1, c7.w0, c7.w1⟩
    r1 := ⟨c0.w2, c0.w3, c1.w2, c1.w3, c2.w2, c2.w3, c3.w2, c3.w3,
      c4.w2, c4.w3, c5.w2, c5.w3, c6.w2, c6.w3, c7.w2, c7.w3⟩
    r2 := ⟨c0.w4, c0.w5, c1.w4, c1.w5, c2.w4, c2.w5, c3.w4, c3.w5,
      c4.w4, c4.w5, c5.w4, c5.w5, c6.w4, c6.w5, c7.w4, c7.w5⟩
    r3 := ⟨c0.w6, c0.w7, c1.w6, c1.w7, c2.w6, c2.w7, c3.w6, c3.w7,
      c4.w6, c4.w7, c5.w6, c5.w7, c6.w6, c6.w7, c7.w6, c7.w7⟩
    r4 := ⟨c0.w8, c0.w9, c1.w8, c1.w9, c2.w8, c2.w9, c3.w8, c3.w9,
      c4.w8, c4.w9, c5.w8, c5.w9, c6.w8, c6.w9, c7.w8, c7.w9⟩
    r5 := ⟨c0.w10, c0.w11, c1.w10, c1.w11, c2.w10, c2.w11, c3.w10, c3.w11,
      c4.w10, c4.w11, c5.w10, c5.w11, c6.w10, c6.w11, c7.w10, c7.w11⟩
    r6 := ⟨c0.w12, c0.w13, c1.w12, c1.w13, c2.w12, c2.w13, c3.w12, c3.w13,
      c4.w12, c4.w13, c5.w12, c5.w13, c6.w12, c6.w13, c7.w12, c7.w13⟩
    r7 := ⟨c0.w14, c0.w15, c1.w14, c1.w15, c2.w14, c2.w15, c3.w14, c3.w15,
      c4.w14, c4.w15, c5.w14, c5.w15, c6.w14, c6.w15, c7.w14, c7.w15⟩ }

/-- Compute a block from two others. -/
def compress (x y : Block) : Block :=
  let sum := x.xor y
  let rows : Block :=
    ⟨permute sum.r0, permute sum.r1, permute sum.r2, permute sum.r3,
      permute sum.r4, permute sum.r5, permute sum.r6, permute sum.r7⟩
  (permuteColumns rows).xor sum

/-- Digests of digests, `left` of them, of which the first halves are kept. -/
def stretch : (left : Nat) → List UInt8 → List UInt8
  | 0, _ => []
  | left + 1, previous => previous.take 32 ++ stretch left (Blake2b.hash 64 previous)

/-- The digest that comes `count` digests after another. -/
def repeatHash : (count : Nat) → List UInt8 → List UInt8
  | 0, digest => digest
  | count + 1, digest => repeatHash count (Blake2b.hash 64 digest)

/-- A digest of any length. -/
def longHash (size : Nat) (message : List UInt8) : List UInt8 :=
  let framed := numberBytes size ++ message
  if size ≤ 64 then Blake2b.hash size framed
  else
    let halves := (size + 31) / 32 - 2
    let first := Blake2b.hash 64 framed
    stretch halves first ++ Blake2b.hash (size - 32 * halves) (repeatHash (halves - 1) first)

/-- A byte sequence after its length. -/
def sized (bytes : List UInt8) : List UInt8 :=
  numberBytes bytes.length ++ bytes

/-- The digest of everything that goes in. -/
def seed (s : Settings) (password salt : List UInt8) : List UInt8 :=
  Blake2b.hash 64 <|
    numberBytes s.lanes ++ numberBytes s.size ++ numberBytes s.memory ++ numberBytes s.passes ++
      numberBytes s.version.number ++ numberBytes s.variant.number ++
      sized password ++ sized salt ++ sized [] ++ sized s.associated

/-- The number of blocks in a segment. -/
def Settings.segment (s : Settings) : Nat :=
  s.memory / (4 * s.lanes)

/-- The number of blocks in a lane. -/
def Settings.lane (s : Settings) : Nat :=
  4 * s.segment

/-- The memory with the first two blocks of each lane filled in. -/
def start (s : Settings) (seed : List UInt8) : Array Block :=
  let fill (memory : Array Block) (lane : Nat) : Array Block :=
    let block (column : Nat) : Block :=
      .ofList (wordsOf (longHash 1024 (seed ++ numberBytes column ++ numberBytes lane)))
    (memory.setIfInBounds (lane * s.lane) (block 0)).setIfInBounds (lane * s.lane + 1) (block 1)
  (List.range s.lanes).foldl fill (Array.replicate (s.lanes * s.lane) Block.zero)

/-- A segment: the pass, the quarter of the lanes, and the lane. -/
structure Segment where
  pass : Nat
  quarter : Nat
  lane : Nat
deriving Repr, DecidableEq

/-- Whether the blocks of a segment are chosen by a counter. -/
def Segment.byCounter (g : Segment) (variant : Variant) : Bool :=
  match variant with
  | .d => false
  | .i => true
  | .id => g.pass == 0 && g.quarter < 2

/-- The words that choose the blocks `128 · (number - 1)` to `128 · number - 1` of a segment. -/
def addresses (s : Settings) (g : Segment) (number : Nat) : Block :=
  let input : Block :=
    { Block.zero with
      r0 :=
        { Words.zero with
          w0 := UInt64.ofNat g.pass
          w1 := UInt64.ofNat g.lane
          w2 := UInt64.ofNat g.quarter
          w3 := UInt64.ofNat (s.lanes * s.lane)
          w4 := UInt64.ofNat s.passes
          w5 := UInt64.ofNat s.variant.number
          w6 := UInt64.ofNat number } }
  compress .zero (compress .zero input)

/-- Where a word points to, for the block at `index` of a segment. -/
def reference (s : Settings) (g : Segment) (index : Nat) (choice : UInt64) : Nat :=
  let high := (choice >>> 32).toNat
  let low := (choice &&& 0xFFFFFFFF).toNat
  let lane := if g.pass = 0 ∧ g.quarter = 0 then g.lane else high % s.lanes
  let before := if g.pass = 0 then g.quarter * s.segment else s.lane - s.segment
  let area :=
    if lane = g.lane then before + index - 1
    else if index = 0 then before - 1
    else before
  let scaled := low * low / Nat.pow 2 32
  let offset := area - 1 - area * scaled / Nat.pow 2 32
  let first := if g.pass = 0 ∨ g.quarter = 3 then 0 else (g.quarter + 1) * s.segment
  lane * s.lane + (first + offset) % s.lane

/-- Compute the block at `index` of a segment, with the words that choose by counter. -/
def fillBlock (s : Settings) (g : Segment) (memory : Array Block) (chosen : Block) (index : Nat) :
    Array Block :=
  let column := g.quarter * s.segment + index
  let here := g.lane * s.lane + column
  let previous := g.lane * s.lane + (column + s.lane - 1) % s.lane
  let before := memory.getD previous .zero
  let choice := if g.byCounter s.variant then chosen.get (index % 128) else before.r0.w0
  let other := memory.getD (reference s g index choice) .zero
  let fresh := compress before other
  if g.pass = 0 ∨ s.version = .overwriting then memory.setIfInBounds here fresh
  else
    let old := memory.getD here .zero
    memory.setIfInBounds here (fresh.xor old)

/-- Compute `left` blocks of a segment from `index` on. -/
def fillFrom (s : Settings) (g : Segment) (chosen : Block) (memory : Array Block) (index : Nat) :
    (left : Nat) → Array Block
  | 0 => memory
  | left + 1 =>
      let chosen :=
        if g.byCounter s.variant && index % 128 == 0 then addresses s g (index / 128 + 1)
        else chosen
      let memory :=
        if g.pass == 0 && g.quarter == 0 && index < 2 then memory
        else fillBlock s g memory chosen index
      fillFrom s g chosen memory (index + 1) left

/-- The segments in the order in which they are computed. -/
def segments (s : Settings) : List Segment :=
  (List.range s.passes).flatMap fun pass =>
    (List.range 4).flatMap fun quarter =>
      (List.range s.lanes).map fun lane => ⟨pass, quarter, lane⟩

/-- The last blocks of all lanes, combined. -/
def combine (s : Settings) (memory : Array Block) : Block :=
  (List.range s.lanes).foldl
    (fun sum lane => sum.xor (memory.getD (lane * s.lane + s.lane - 1) .zero)) .zero

/-- The digest of a password with a salt. -/
def hash (s : Settings) (password salt : List UInt8) : List UInt8 :=
  let memory :=
    (segments s).foldl (fun memory g => fillFrom s g .zero memory 0 s.segment)
      (start s (seed s password salt))
  longHash s.size ((combine s memory).toList.flatMap wordBytes)

end Notary.Digest.Argon2
