import Bearer.Digest.Square
import Bearer.Digest.Words

/-!
# BLAKE2b

The message is cut into blocks of 128 bytes, the last one filled with zeros; each block stirs a
square of sixteen words for twelve rounds. The digest has from 1 to 64 bytes.
-/

namespace Bearer.Digest.Blake2b

/-- The eight words that stand for the message so far. -/
structure Chaining where
  h0 : UInt64
  h1 : UInt64
  h2 : UInt64
  h3 : UInt64
  h4 : UInt64
  h5 : UInt64
  h6 : UInt64
  h7 : UInt64

/-- The constants of the function: square roots of the first eight primes. -/
def initial : Chaining :=
  ⟨0x6a09e667f3bcc908, 0xbb67ae8584caa73b, 0x3c6ef372fe94f82b, 0xa54ff53a5f1d36f1,
    0x510e527fade682d1, 0x9b05688c2b3e6c1f, 0x1f83d9abfb41bd6b, 0x5be0cd19137e2179⟩

/-- The order in which ten rounds take the words of the message. -/
def orders : List (Array Nat) :=
  [ #[0, 1, 2, 3, 4, 5, 6, 7, 8, 9, 10, 11, 12, 13, 14, 15],
    #[14, 10, 4, 8, 9, 15, 13, 6, 1, 12, 0, 2, 11, 7, 5, 3],
    #[11, 8, 12, 0, 5, 2, 15, 13, 10, 14, 3, 6, 7, 1, 9, 4],
    #[7, 9, 3, 1, 13, 12, 11, 14, 2, 6, 5, 10, 4, 0, 15, 8],
    #[9, 0, 5, 7, 2, 4, 10, 15, 14, 1, 11, 12, 6, 8, 3, 13],
    #[2, 12, 6, 10, 0, 11, 8, 3, 4, 13, 7, 5, 15, 14, 1, 9],
    #[12, 5, 1, 15, 14, 13, 4, 10, 0, 7, 6, 3, 9, 2, 8, 11],
    #[13, 11, 7, 14, 12, 1, 3, 9, 5, 0, 15, 4, 8, 6, 2, 10],
    #[6, 15, 14, 9, 11, 3, 0, 8, 12, 2, 13, 7, 1, 4, 10, 5],
    #[10, 2, 8, 4, 7, 6, 1, 5, 15, 11, 9, 14, 3, 12, 13, 0] ]

/-- Mixes four words of the square with two words of the message. -/
@[inline]
def mix (first second : UInt64) (q : Quad) : Quad :=
  let a1 := q.a + q.b + first
  let d1 := rotate64 (q.d ^^^ a1) 32
  let c1 := q.c + d1
  let b1 := rotate64 (q.b ^^^ c1) 24
  let a2 := a1 + b1 + second
  let d2 := rotate64 (d1 ^^^ a2) 16
  let c2 := c1 + d2
  let b2 := rotate64 (b1 ^^^ c2) 63
  ⟨a2, b2, c2, d2⟩

/-- One round, the words of the message in the given order. -/
def round (message : Array UInt64) (square : Square) (order : Array Nat) : Square :=
  let word := fun index => message.getD (order.getD index 0) 0
  square.round fun step => mix (word (2 * step)) (word (2 * step + 1))

/-- The words after one more block, of which so many message bytes were read in all. -/
def absorb (chaining : Chaining) (block : List UInt8) (read : Nat) (last : Bool) : Chaining :=
  let message := (words64 (filled 128 block)).toArray
  let ⟨h0, h1, h2, h3, h4, h5, h6, h7⟩ := chaining
  let ending : UInt64 := if last then 0xFFFFFFFFFFFFFFFF else 0
  let fresh : Square :=
    ⟨h0, h1, h2, h3, h4, h5, h6, h7, initial.h0, initial.h1, initial.h2, initial.h3,
      initial.h4 ^^^ read.toUInt64, initial.h5, initial.h6 ^^^ ending, initial.h7⟩
  let s := (orders ++ orders.take 2).foldl (round message) fresh
  ⟨h0 ^^^ s.w0 ^^^ s.w8, h1 ^^^ s.w1 ^^^ s.w9, h2 ^^^ s.w2 ^^^ s.w10, h3 ^^^ s.w3 ^^^ s.w11,
    h4 ^^^ s.w4 ^^^ s.w12, h5 ^^^ s.w5 ^^^ s.w13, h6 ^^^ s.w6 ^^^ s.w14, h7 ^^^ s.w7 ^^^ s.w15⟩

/-- The words after the remaining blocks, of which there is one at least. -/
def absorbAll (chaining : Chaining) (read : Nat) : List (List UInt8) → Chaining
  | [] => absorb chaining [] read true
  | [block] => absorb chaining block (read + block.length) true
  | block :: rest => absorbAll (absorb chaining block (read + block.length) false)
      (read + block.length) rest

/-- The 64 bytes of the words. -/
def Chaining.bytes (chaining : Chaining) : List UInt8 :=
  [chaining.h0, chaining.h1, chaining.h2, chaining.h3, chaining.h4, chaining.h5, chaining.h6,
    chaining.h7].flatMap ofWord64

/-- The digest of a message, with so many bytes. -/
def digest (size : Nat) (message : List UInt8) : List UInt8 :=
  let start := { initial with h0 := initial.h0 ^^^ 0x01010000 ^^^ size.toUInt64 }
  (absorbAll start 0 (pieces 128 message)).bytes.take size

theorem length_digest (size : Nat) (message : List UInt8) (small : size ≤ 64) :
    (digest size message).length = size := by
  have : ∀ chaining : Chaining, chaining.bytes.length = 64 := fun _ => rfl
  simp [digest, this, small]

end Bearer.Digest.Blake2b
