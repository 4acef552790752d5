/-!
# Bytes in groups

Digests work on groups of bytes: blocks of a fixed size, and words of four or eight bytes with the
low or the high byte first. `flatten_pieces` says that cutting into blocks loses nothing, and
`length_ofWord32` and `length_ofWord64` give the sizes of written words.
-/

namespace Bearer.Digest

/-- The pieces of a sequence, each of the given size but the last, which may be shorter. -/
def pieces {α : Type} (size : Nat) (items : List α) : List (List α) :=
  if h : size = 0 ∨ items = [] then []
  else
    have : 0 < items.length := List.length_pos_iff.2 (not_or.1 h).2
    items.take size :: pieces size (items.drop size)
termination_by items.length
decreasing_by simp only [List.length_drop]; omega

/-- The pieces put together are the sequence. -/
theorem flatten_pieces {α : Type} (size : Nat) (positive : 0 < size) (items : List α) :
    (pieces size items).flatten = items := by
  fun_induction pieces size items with
  | case1 items none =>
      rcases none with zero | rfl
      · omega
      · rfl
  | case2 items _ _ ih => simp [ih]

/-- A block filled up with zeros to a size. -/
def filled (size : Nat) (block : List UInt8) : List UInt8 :=
  block ++ List.replicate (size - block.length) 0

/-- The words of four bytes, low byte first; a shorter rest is dropped. -/
def words32 : List UInt8 → List UInt32
  | first :: second :: third :: fourth :: rest =>
    (first.toUInt32 ||| second.toUInt32 <<< 8 ||| third.toUInt32 <<< 16 |||
      fourth.toUInt32 <<< 24) :: words32 rest
  | _ => []

/-- The words of eight bytes, low byte first; a shorter rest is dropped. -/
def words64 : List UInt8 → List UInt64
  | b0 :: b1 :: b2 :: b3 :: b4 :: b5 :: b6 :: b7 :: rest =>
    (b0.toUInt64 ||| b1.toUInt64 <<< 8 ||| b2.toUInt64 <<< 16 ||| b3.toUInt64 <<< 24 |||
      b4.toUInt64 <<< 32 ||| b5.toUInt64 <<< 40 ||| b6.toUInt64 <<< 48 |||
      b7.toUInt64 <<< 56) :: words64 rest
  | _ => []

/-- A word of four bytes, low byte first. -/
def ofWord32 (word : UInt32) : List UInt8 :=
  [word.toUInt8, (word >>> 8).toUInt8, (word >>> 16).toUInt8, (word >>> 24).toUInt8]

/-- A word of eight bytes, low byte first. -/
def ofWord64 (word : UInt64) : List UInt8 :=
  ofWord32 word.toUInt32 ++ ofWord32 (word >>> 32).toUInt32

/-- Four bytes are written for a word of 32 bits. -/
@[simp]
theorem length_ofWord32 (word : UInt32) : (ofWord32 word).length = 4 := rfl

/-- Eight bytes are written for a word of 64 bits. -/
@[simp]
theorem length_ofWord64 (word : UInt64) : (ofWord64 word).length = 8 := rfl

/-- Rotation of 32 bits to the right. -/
@[inline]
def rotate32 (word count : UInt32) : UInt32 :=
  word >>> count ||| word <<< (32 - count)

/-- Rotation of 64 bits to the right. -/
@[inline]
def rotate64 (word count : UInt64) : UInt64 :=
  word >>> count ||| word <<< (64 - count)

end Bearer.Digest
