import Bearer.Digest.Words

/-!
# SHA-256

The message is padded to blocks of 64 bytes; each block is expanded to 64 words, which drive 64
rounds over eight working words. `length_digest` gives the length of the result.
-/

namespace Bearer.Digest.Sha256

/-- The eight working words. -/
structure State where
  /-- The first word. -/
  a : UInt32
  /-- The second word. -/
  b : UInt32
  /-- The third word. -/
  c : UInt32
  /-- The fourth word. -/
  d : UInt32
  /-- The fifth word. -/
  e : UInt32
  /-- The sixth word. -/
  f : UInt32
  /-- The seventh word. -/
  g : UInt32
  /-- The eighth word. -/
  h : UInt32

/-- The words before the first block: square roots of the first eight primes. -/
def initial : State :=
  ⟨0x6a09e667, 0xbb67ae85, 0x3c6ef372, 0xa54ff53a, 0x510e527f, 0x9b05688c, 0x1f83d9ab, 0x5be0cd19⟩

/-- The round constants: cube roots of the first sixty-four primes. -/
def constants : List UInt32 :=
  [ 0x428a2f98, 0x71374491, 0xb5c0fbcf, 0xe9b5dba5, 0x3956c25b, 0x59f111f1, 0x923f82a4, 0xab1c5ed5,
    0xd807aa98, 0x12835b01, 0x243185be, 0x550c7dc3, 0x72be5d74, 0x80deb1fe, 0x9bdc06a7, 0xc19bf174,
    0xe49b69c1, 0xefbe4786, 0x0fc19dc6, 0x240ca1cc, 0x2de92c6f, 0x4a7484aa, 0x5cb0a9dc, 0x76f988da,
    0x983e5152, 0xa831c66d, 0xb00327c8, 0xbf597fc7, 0xc6e00bf3, 0xd5a79147, 0x06ca6351, 0x14292967,
    0x27b70a85, 0x2e1b2138, 0x4d2c6dfc, 0x53380d13, 0x650a7354, 0x766a0abb, 0x81c2c92e, 0x92722c85,
    0xa2bfe8a1, 0xa81a664b, 0xc24b8b70, 0xc76c51a3, 0xd192e819, 0xd6990624, 0xf40e3585, 0x106aa070,
    0x19a4c116, 0x1e376c08, 0x2748774c, 0x34b0bcb5, 0x391c0cb3, 0x4ed8aa4a, 0x5b9cca4f, 0x682e6ff3,
    0x748f82ee, 0x78a5636f, 0x84c87814, 0x8cc70208, 0x90befffa, 0xa4506ceb, 0xbef9a3f7, 0xc67178f2 ]

/-- A word with the high byte first. -/
def ofWord (word : UInt32) : List UInt8 :=
  (ofWord32 word).reverse

/-- The words of a block, high byte first. -/
def words (block : List UInt8) : List UInt32 :=
  (words32 block.reverse).reverse

/-- The message followed by a one bit, zeros and its length in bits, in whole blocks. -/
def padded (message : List UInt8) : List UInt8 :=
  let bits := message.length * 8
  let zeros := (119 - message.length % 64) % 64
  message ++ 0x80 :: List.replicate zeros 0 ++ (ofWord64 bits.toUInt64).reverse

/-- The next word of the schedule, from the sixteen before it, the latest first. -/
def nextWord (latest : List UInt32) : UInt32 :=
  let word := fun back => latest.getD (back - 1) 0
  let low := rotate32 (word 15) 7 ^^^ rotate32 (word 15) 18 ^^^ word 15 >>> 3
  let high := rotate32 (word 2) 17 ^^^ rotate32 (word 2) 19 ^^^ word 2 >>> 10
  word 16 + low + word 7 + high

/-- So many more words of the schedule, the latest first. -/
def extended : Nat → List UInt32 → List UInt32
  | 0, latest => latest
  | count + 1, latest => extended count (nextWord latest :: latest)

/-- One round. -/
def round (state : State) (step : UInt32 × UInt32) : State :=
  let high := rotate32 state.e 6 ^^^ rotate32 state.e 11 ^^^ rotate32 state.e 25
  let choice := (state.e &&& state.f) ^^^ (~~~state.e &&& state.g)
  let first := state.h + high + choice + step.1 + step.2
  let low := rotate32 state.a 2 ^^^ rotate32 state.a 13 ^^^ rotate32 state.a 22
  let majority := (state.a &&& state.b) ^^^ (state.a &&& state.c) ^^^ (state.b &&& state.c)
  { a := first + low + majority, b := state.a, c := state.b, d := state.c
    e := state.d + first, f := state.e, g := state.f, h := state.g }

/-- The sum of two states, word by word. -/
def State.plus (left right : State) : State :=
  ⟨left.a + right.a, left.b + right.b, left.c + right.c, left.d + right.d,
    left.e + right.e, left.f + right.f, left.g + right.g, left.h + right.h⟩

/-- The state after one more block. -/
def absorb (state : State) (block : List UInt8) : State :=
  let schedule := (extended 48 (words block).reverse).reverse
  state.plus ((constants.zip schedule).foldl round state)

/-- The bytes of a state. -/
def State.bytes (state : State) : List UInt8 :=
  [state.a, state.b, state.c, state.d, state.e, state.f, state.g, state.h].flatMap ofWord

/-- The digest of a message. -/
def digest (message : List UInt8) : List UInt8 :=
  ((pieces 64 (padded message)).foldl absorb initial).bytes

/-- A digest has 32 bytes. -/
@[simp]
theorem length_digest (message : List UInt8) : (digest message).length = 32 := rfl

end Bearer.Digest.Sha256
