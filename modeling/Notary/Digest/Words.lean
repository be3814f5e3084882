namespace Notary.Digest

/-!
# Sixteen words

The state that the digests mix: sixteen 64-bit words, seen as a square of four
rows. One round of mixing takes the columns of the square and then its
diagonals; what a single step does to four words is left to the digest.
-/

/-- Sixteen 64-bit words. -/
structure Words where
  w0 : UInt64
  w1 : UInt64
  w2 : UInt64
  w3 : UInt64
  w4 : UInt64
  w5 : UInt64
  w6 : UInt64
  w7 : UInt64
  w8 : UInt64
  w9 : UInt64
  w10 : UInt64
  w11 : UInt64
  w12 : UInt64
  w13 : UInt64
  w14 : UInt64
  w15 : UInt64
deriving Repr, DecidableEq, Inhabited

/-- Four words that are mixed with one another. -/
structure Quad where
  a : UInt64
  b : UInt64
  c : UInt64
  d : UInt64

/-- Rotate a word to the right. -/
@[inline] def rotateRight (w : UInt64) (bits : UInt64) : UInt64 :=
  (w >>> bits) ||| (w <<< (64 - bits))

namespace Words

/-- Sixteen zeros. -/
def zero : Words := ⟨0, 0, 0, 0, 0, 0, 0, 0, 0, 0, 0, 0, 0, 0, 0, 0⟩

/-- Combine two squares word by word with exclusive or. -/
def xor (x y : Words) : Words :=
  ⟨x.w0 ^^^ y.w0, x.w1 ^^^ y.w1, x.w2 ^^^ y.w2, x.w3 ^^^ y.w3,
    x.w4 ^^^ y.w4, x.w5 ^^^ y.w5, x.w6 ^^^ y.w6, x.w7 ^^^ y.w7,
    x.w8 ^^^ y.w8, x.w9 ^^^ y.w9, x.w10 ^^^ y.w10, x.w11 ^^^ y.w11,
    x.w12 ^^^ y.w12, x.w13 ^^^ y.w13, x.w14 ^^^ y.w14, x.w15 ^^^ y.w15⟩

/-- The words in order. -/
def toList (x : Words) : List UInt64 :=
  [x.w0, x.w1, x.w2, x.w3, x.w4, x.w5, x.w6, x.w7,
    x.w8, x.w9, x.w10, x.w11, x.w12, x.w13, x.w14, x.w15]

/-- The first sixteen words of a list, with zeros for missing ones. -/
def ofList (ws : List UInt64) : Words :=
  match ws ++ List.replicate 16 0 with
  | w0 :: w1 :: w2 :: w3 :: w4 :: w5 :: w6 :: w7 ::
      w8 :: w9 :: w10 :: w11 :: w12 :: w13 :: w14 :: w15 :: _ =>
      ⟨w0, w1, w2, w3, w4, w5, w6, w7, w8, w9, w10, w11, w12, w13, w14, w15⟩
  | _ => zero

/-- The word at a place. -/
def get (x : Words) (place : Nat) : UInt64 :=
  match place with
  | 0 => x.w0 | 1 => x.w1 | 2 => x.w2 | 3 => x.w3
  | 4 => x.w4 | 5 => x.w5 | 6 => x.w6 | 7 => x.w7
  | 8 => x.w8 | 9 => x.w9 | 10 => x.w10 | 11 => x.w11
  | 12 => x.w12 | 13 => x.w13 | 14 => x.w14 | _ => x.w15

end Words

/-- The eight bytes of a word, lowest first. -/
def wordBytes (w : UInt64) : List UInt8 :=
  [w.toUInt8, (w >>> 8).toUInt8, (w >>> 16).toUInt8, (w >>> 24).toUInt8,
    (w >>> 32).toUInt8, (w >>> 40).toUInt8, (w >>> 48).toUInt8, (w >>> 56).toUInt8]

/-- The words of a byte sequence, lowest byte first; a last group that is not full gets zeros. -/
def wordsOf : List UInt8 → List UInt64
  | a :: b :: c :: d :: e :: f :: g :: h :: rest =>
      (a.toUInt64 ||| (b.toUInt64 <<< 8) ||| (c.toUInt64 <<< 16) ||| (d.toUInt64 <<< 24) |||
        (e.toUInt64 <<< 32) ||| (f.toUInt64 <<< 40) ||| (g.toUInt64 <<< 48) |||
        (h.toUInt64 <<< 56)) :: wordsOf rest
  | [] => []
  | short => [short.reverse.foldl (fun w b => (w <<< 8) ||| b.toUInt64) 0]

/-- The four bytes of a number below 2³², lowest first. -/
def numberBytes (n : Nat) : List UInt8 :=
  [n.toUInt8, (n / Nat.pow 2 8).toUInt8, (n / Nat.pow 2 16).toUInt8, (n / Nat.pow 2 24).toUInt8]

end Notary.Digest
