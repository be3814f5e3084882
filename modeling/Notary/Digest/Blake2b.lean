import Notary.Digest.Words

namespace Notary.Digest.Blake2b

/-!
# BLAKE2b

The digest without a key, of any length up to 64 bytes. The message is taken in
blocks of 128 bytes; the last one is filled up with zeros and marked as last.
-/

/-- The eight words that a digest starts from. -/
def initial : List UInt64 :=
  [0x6a09e667f3bcc908, 0xbb67ae8584caa73b, 0x3c6ef372fe94f82b, 0xa54ff53a5f1d36f1,
    0x510e527fade682d1, 0x9b05688c2b3e6c1f, 0x1f83d9abfb41bd6b, 0x5be0cd19137e2179]

/-- The order of the message words in ten rounds; the other two repeat the first. -/
def schedule : List (List Nat) :=
  [[0, 1, 2, 3, 4, 5, 6, 7, 8, 9, 10, 11, 12, 13, 14, 15],
    [14, 10, 4, 8, 9, 15, 13, 6, 1, 12, 0, 2, 11, 7, 5, 3],
    [11, 8, 12, 0, 5, 2, 15, 13, 10, 14, 3, 6, 7, 1, 9, 4],
    [7, 9, 3, 1, 13, 12, 11, 14, 2, 6, 5, 10, 4, 0, 15, 8],
    [9, 0, 5, 7, 2, 4, 10, 15, 14, 1, 11, 12, 6, 8, 3, 13],
    [2, 12, 6, 10, 0, 11, 8, 3, 4, 13, 7, 5, 15, 14, 1, 9],
    [12, 5, 1, 15, 14, 13, 4, 10, 0, 7, 6, 3, 9, 2, 8, 11],
    [13, 11, 7, 14, 12, 1, 3, 9, 5, 0, 15, 4, 8, 6, 2, 10],
    [6, 15, 14, 9, 11, 3, 0, 8, 12, 2, 13, 7, 1, 4, 10, 5],
    [10, 2, 8, 4, 7, 6, 1, 5, 15, 11, 9, 14, 3, 12, 13, 0]]

/-- Mix four words with two words of the message. -/
@[inline] def mix (a b c d x y : UInt64) : Quad :=
  let a := a + b + x
  let d := rotateRight (d ^^^ a) 32
  let c := c + d
  let b := rotateRight (b ^^^ c) 24
  let a := a + b + y
  let d := rotateRight (d ^^^ a) 16
  let c := c + d
  let b := rotateRight (b ^^^ c) 63
  ⟨a, b, c, d⟩

/-- One round, with the message words in the order of the round. -/
def round (v m : Words) : Words :=
  let ⟨v0, v4, v8, v12⟩ := mix v.w0 v.w4 v.w8 v.w12 m.w0 m.w1
  let ⟨v1, v5, v9, v13⟩ := mix v.w1 v.w5 v.w9 v.w13 m.w2 m.w3
  let ⟨v2, v6, v10, v14⟩ := mix v.w2 v.w6 v.w10 v.w14 m.w4 m.w5
  let ⟨v3, v7, v11, v15⟩ := mix v.w3 v.w7 v.w11 v.w15 m.w6 m.w7
  let ⟨v0, v5, v10, v15⟩ := mix v0 v5 v10 v15 m.w8 m.w9
  let ⟨v1, v6, v11, v12⟩ := mix v1 v6 v11 v12 m.w10 m.w11
  let ⟨v2, v7, v8, v13⟩ := mix v2 v7 v8 v13 m.w12 m.w13
  let ⟨v3, v4, v9, v14⟩ := mix v3 v4 v9 v14 m.w14 m.w15
  ⟨v0, v1, v2, v3, v4, v5, v6, v7, v8, v9, v10, v11, v12, v13, v14, v15⟩

/-- Message words in the order of a round. -/
def arrange (m : Words) (order : List Nat) : Words :=
  Words.ofList (order.map m.get)

/--
Take in one block of the message. `count` is the number of bytes up to its end,
`last` marks the last block.
-/
def compress (h : List UInt64) (m : Words) (count : Nat) (last : Bool) : List UInt64 :=
  let start := Words.ofList (h ++ initial)
  let start :=
    { start with
      w12 := start.w12 ^^^ UInt64.ofNat count
      w14 := if last then start.w14 ^^^ 0xFFFFFFFFFFFFFFFF else start.w14 }
  let mixed := (schedule ++ schedule.take 2).foldl (fun v order => round v (arrange m order)) start
  List.zipWith (· ^^^ ·) h (List.zipWith (· ^^^ ·) (mixed.toList.take 8) (mixed.toList.drop 8))

/-- Take in a message after `count` bytes of it; every call but the last uses up `left`. -/
def absorb (h : List UInt64) (count : Nat) : (left : Nat) → List UInt8 → List UInt64
  | 0, message => compress h (Words.ofList (wordsOf message)) (count + message.length) true
  | left + 1, message =>
      let h := compress h (Words.ofList (wordsOf (message.take 128))) (count + 128) false
      absorb h (count + 128) left (message.drop 128)

/-- The digest of a message, `size` bytes long. -/
def hash (size : Nat) (message : List UInt8) : List UInt8 :=
  let start :=
    match initial with
    | first :: rest => (first ^^^ 0x01010000 ^^^ UInt64.ofNat size) :: rest
    | [] => []
  let blocks := (message.length - 1) / 128
  ((absorb start 0 blocks message).flatMap wordBytes).take size

end Notary.Digest.Blake2b
