import Bearer.Digest.Blake2b

/-!
# Argon2

A password is stretched over a memory of blocks of 1024 bytes. The memory is divided into lanes, and
each lane into four slices; a pass fills every block from the one before it and from another one,
whose place depends on the blocks already filled or, for the independent kind, on the position only.
-/

namespace Bearer.Digest.Argon2

/-- How the place of the other block is chosen. -/
inductive Kind where
  /-- By the blocks already filled. -/
  | dependent
  /-- By the position only. -/
  | independent
  /-- By the position in the first half of the first pass, then by the blocks. -/
  | hybrid
deriving DecidableEq, Repr

/-- The number of a kind. -/
def Kind.code : Kind → UInt32
  | dependent => 0
  | independent => 1
  | hybrid => 2

/-- The two revisions of the function. -/
inductive Version where
  /-- A later pass replaces a block. -/
  | replacing
  /-- A later pass adds to a block. -/
  | adding
deriving DecidableEq, Repr

/-- The number of a revision. -/
def Version.code : Version → Nat
  | replacing => 16
  | adding => 19

/-- What the function is run with, apart from the password. -/
structure Parameters where
  /-- How blocks are chosen. -/
  kind : Kind
  /-- The revision. -/
  version : Version
  /-- The memory in blocks. -/
  memory : Nat
  /-- The number of passes. -/
  passes : Nat
  /-- The number of lanes. -/
  lanes : Nat
  /-- The salt. -/
  salt : List UInt8
  /-- Further data that enters the result. -/
  data : List UInt8
  /-- The number of bytes of the result. -/
  size : Nat
deriving DecidableEq, Repr

/-- A block of memory: eight squares of sixteen words. -/
structure Block where
  s0 : Square
  s1 : Square
  s2 : Square
  s3 : Square
  s4 : Square
  s5 : Square
  s6 : Square
  s7 : Square

namespace Block

/-- The block of zeros. -/
def zero : Block :=
  let square := Square.uniform 0
  ⟨square, square, square, square, square, square, square, square⟩

/-- The block with the given 128 words. -/
def ofWords (words : List UInt64) : Block :=
  let square := fun index => Square.ofList ((words.drop (16 * index)).take 16)
  ⟨square 0, square 1, square 2, square 3, square 4, square 5, square 6, square 7⟩

/-- The squares in order. -/
def squares (block : Block) : List Square :=
  [block.s0, block.s1, block.s2, block.s3, block.s4, block.s5, block.s6, block.s7]

/-- The words in order. -/
def words (block : Block) : List UInt64 :=
  block.squares.flatMap Square.toList

/-- The exclusive or of two blocks. -/
def xor (x y : Block) : Block :=
  ⟨x.s0.xor y.s0, x.s1.xor y.s1, x.s2.xor y.s2, x.s3.xor y.s3,
    x.s4.xor y.s4, x.s5.xor y.s5, x.s6.xor y.s6, x.s7.xor y.s7⟩

/-- The sum of two words and twice the product of their low halves. -/
@[inline]
def blend (x y : UInt64) : UInt64 :=
  x + y + 2 * (x &&& 0xFFFFFFFF) * (y &&& 0xFFFFFFFF)

/-- Mixes four words. -/
@[inline]
def mix (q : Quad) : Quad :=
  let a1 := blend q.a q.b
  let d1 := rotate64 (q.d ^^^ a1) 32
  let c1 := blend q.c d1
  let b1 := rotate64 (q.b ^^^ c1) 24
  let a2 := blend a1 b1
  let d2 := rotate64 (d1 ^^^ a2) 16
  let c2 := blend c1 d2
  let b2 := rotate64 (b1 ^^^ c2) 63
  ⟨a2, b2, c2, d2⟩

/-- Stirs one square. -/
def stirred (square : Square) : Square :=
  square.round fun _ => mix

/-- Stirs all squares. -/
def stirredAll (b : Block) : Block :=
  ⟨stirred b.s0, stirred b.s1, stirred b.s2, stirred b.s3,
    stirred b.s4, stirred b.s5, stirred b.s6, stirred b.s7⟩

/-- Seen as a matrix of eight rows and eight pairs of words, the block with rows and columns
exchanged. -/
def transposed (b : Block) : Block where
  s0 := ⟨b.s0.w0, b.s0.w1, b.s1.w0, b.s1.w1, b.s2.w0, b.s2.w1, b.s3.w0, b.s3.w1,
    b.s4.w0, b.s4.w1, b.s5.w0, b.s5.w1, b.s6.w0, b.s6.w1, b.s7.w0, b.s7.w1⟩
  s1 := ⟨b.s0.w2, b.s0.w3, b.s1.w2, b.s1.w3, b.s2.w2, b.s2.w3, b.s3.w2, b.s3.w3,
    b.s4.w2, b.s4.w3, b.s5.w2, b.s5.w3, b.s6.w2, b.s6.w3, b.s7.w2, b.s7.w3⟩
  s2 := ⟨b.s0.w4, b.s0.w5, b.s1.w4, b.s1.w5, b.s2.w4, b.s2.w5, b.s3.w4, b.s3.w5,
    b.s4.w4, b.s4.w5, b.s5.w4, b.s5.w5, b.s6.w4, b.s6.w5, b.s7.w4, b.s7.w5⟩
  s3 := ⟨b.s0.w6, b.s0.w7, b.s1.w6, b.s1.w7, b.s2.w6, b.s2.w7, b.s3.w6, b.s3.w7,
    b.s4.w6, b.s4.w7, b.s5.w6, b.s5.w7, b.s6.w6, b.s6.w7, b.s7.w6, b.s7.w7⟩
  s4 := ⟨b.s0.w8, b.s0.w9, b.s1.w8, b.s1.w9, b.s2.w8, b.s2.w9, b.s3.w8, b.s3.w9,
    b.s4.w8, b.s4.w9, b.s5.w8, b.s5.w9, b.s6.w8, b.s6.w9, b.s7.w8, b.s7.w9⟩
  s5 := ⟨b.s0.w10, b.s0.w11, b.s1.w10, b.s1.w11, b.s2.w10, b.s2.w11, b.s3.w10, b.s3.w11,
    b.s4.w10, b.s4.w11, b.s5.w10, b.s5.w11, b.s6.w10, b.s6.w11, b.s7.w10, b.s7.w11⟩
  s6 := ⟨b.s0.w12, b.s0.w13, b.s1.w12, b.s1.w13, b.s2.w12, b.s2.w13, b.s3.w12, b.s3.w13,
    b.s4.w12, b.s4.w13, b.s5.w12, b.s5.w13, b.s6.w12, b.s6.w13, b.s7.w12, b.s7.w13⟩
  s7 := ⟨b.s0.w14, b.s0.w15, b.s1.w14, b.s1.w15, b.s2.w14, b.s2.w15, b.s3.w14, b.s3.w15,
    b.s4.w14, b.s4.w15, b.s5.w14, b.s5.w15, b.s6.w14, b.s6.w15, b.s7.w14, b.s7.w15⟩

@[simp]
theorem transposed_transposed (block : Block) : block.transposed.transposed = block := rfl

/-- The block made from two: their sum stirred by rows and by columns, plus their sum. -/
def compress (x y : Block) : Block :=
  let sum := x.xor y
  sum.stirredAll.transposed.stirredAll.transposed.xor sum

end Block

/-- A digest of any size: a short one at once, a long one by 32 bytes at a time. -/
def stretched (size : Nat) (message : List UInt8) : List UInt8 :=
  let message := ofWord32 size.toUInt32 ++ message
  if size ≤ 64 then Blake2b.digest size message
  else
    let rec further : Nat → Nat → List UInt8 → List UInt8
      | 0, _, _ => []
      | steps + 1, left, last =>
        if left ≤ 64 then Blake2b.digest left last
        else
          let next := Blake2b.digest 64 last
          next.take 32 ++ further steps (left - 32) next
    let first := Blake2b.digest 64 message
    first.take 32 ++ further size (size - 32) first

/-- A block of 1024 bytes. -/
def startBlock (seed : List UInt8) (column lane : Nat) : Block :=
  .ofWords (words64
    (stretched 1024 (seed ++ ofWord32 column.toUInt32 ++ ofWord32 lane.toUInt32)))

/-- A text with its length in front. -/
def sized (bytes : List UInt8) : List UInt8 :=
  ofWord32 bytes.length.toUInt32 ++ bytes

namespace Parameters

/-- The digest of all that enters the result. -/
def seed (parameters : Parameters) (password : List UInt8) : List UInt8 :=
  let numbers := [parameters.lanes.toUInt32, parameters.size.toUInt32, parameters.memory.toUInt32,
    parameters.passes.toUInt32, parameters.version.code.toUInt32, parameters.kind.code]
  Blake2b.digest 64 (numbers.flatMap ofWord32 ++ sized password ++ sized parameters.salt ++
    sized [] ++ sized parameters.data)

/-- The number of blocks in a quarter of a lane. -/
def sliceSize (parameters : Parameters) : Nat :=
  parameters.memory / (4 * parameters.lanes)

/-- The number of blocks in a lane. -/
def laneSize (parameters : Parameters) : Nat :=
  4 * parameters.sliceSize

/-- The number of blocks in use. -/
def blocks (parameters : Parameters) : Nat :=
  parameters.lanes * parameters.laneSize

end Parameters

/-- Where filling stands, apart from the block within the slice. -/
structure Place where
  /-- The pass, from zero. -/
  pass : Nat
  /-- The quarter of the lane. -/
  slice : Nat
  /-- The lane. -/
  lane : Nat

/-- Whether the place of the other block depends on the position only. -/
def Place.independent (place : Place) : Kind → Bool
  | .dependent => false
  | .independent => true
  | .hybrid => place.pass = 0 && place.slice < 2

/-- The pseudo-random words for the positions of a slice, 128 to a block. -/
def addresses (parameters : Parameters) (place : Place) : Array UInt64 :=
  let numbers : List UInt64 :=
    [place.pass.toUInt64, place.lane.toUInt64, place.slice.toUInt64, parameters.blocks.toUInt64,
      parameters.passes.toUInt64, parameters.kind.code.toUInt64]
  let block := fun counter : Nat =>
    let input := Block.ofWords (numbers ++ [counter.toUInt64])
    Block.zero.compress (Block.zero.compress input)
  let count := (parameters.sliceSize + 127) / 128
  ((List.range count).flatMap fun index => (block (index + 1)).words).toArray

/-- The number of blocks that may be chosen for a position. -/
def eligible (parameters : Parameters) (place : Place) (sameLane : Bool) (index : Nat) : Nat :=
  let finished :=
    if place.pass = 0 then place.slice * parameters.sliceSize
    else parameters.laneSize - parameters.sliceSize
  if sameLane then finished + index - 1
  else if index = 0 then finished - 1
  else finished

/-- The lane and the column of the other block, chosen by a pseudo-random word. -/
def chosen (parameters : Parameters) (place : Place) (index : Nat) (word : UInt64) : Nat × Nat :=
  let low := (word &&& 0xFFFFFFFF).toNat
  let high := (word >>> 32).toNat
  let lane :=
    if place.pass = 0 ∧ place.slice = 0 then place.lane else high % parameters.lanes
  let area := eligible parameters place (lane = place.lane) index
  let back := (area * ((low * low) >>> 32)) >>> 32
  let start :=
    if place.pass = 0 ∨ place.slice = 3 then 0 else (place.slice + 1) * parameters.sliceSize
  (lane, (start + (area - 1 - back)) % parameters.laneSize)

/-- Fills one block of a slice. -/
def fillBlock (parameters : Parameters) (place : Place) (words : Option (Array UInt64))
    (memory : Array Block) (index : Nat) : Array Block :=
  let column := place.slice * parameters.sliceSize + index
  let base := place.lane * parameters.laneSize
  let before := if column = 0 then parameters.laneSize - 1 else column - 1
  let previous := memory.getD (base + before) Block.zero
  let word := match words with
    | some words => words.getD index 0
    | none => previous.s0.w0
  let (lane, other) := chosen parameters place index word
  let made := previous.compress (memory.getD (lane * parameters.laneSize + other) Block.zero)
  if place.pass = 0 ∨ parameters.version = .replacing then memory.setIfInBounds (base + column) made
  else memory.modify (base + column) made.xor

/-- Fills a slice of a lane; the first two blocks of a lane are given. -/
def fillSlice (parameters : Parameters) (memory : Array Block) (place : Place) : Array Block :=
  let words :=
    if place.independent parameters.kind then some (addresses parameters place) else none
  let given := if place.pass = 0 ∧ place.slice = 0 then 2 else 0
  (List.range' given (parameters.sliceSize - given)).foldl
    (fillBlock parameters place words) memory

/-- The memory before the first pass: two blocks of each lane. -/
def started (parameters : Parameters) (seed : List UInt8) : Array Block :=
  let zeros := Array.replicate parameters.blocks Block.zero
  (List.range parameters.lanes).foldl (fun memory lane =>
    let base := lane * parameters.laneSize
    (memory.setIfInBounds base (startBlock seed 0 lane)).setIfInBounds (base + 1)
      (startBlock seed 1 lane)) zeros

/-- The places in the order in which they are filled. -/
def places (parameters : Parameters) : List Place :=
  (List.range parameters.passes).flatMap fun pass =>
    (List.range 4).flatMap fun slice =>
      (List.range parameters.lanes).map fun lane => ⟨pass, slice, lane⟩

/-- The sum of the last blocks of all lanes. -/
def lastBlocks (parameters : Parameters) (memory : Array Block) : Block :=
  (List.range parameters.lanes).foldl (fun sum lane =>
    sum.xor (memory.getD ((lane + 1) * parameters.laneSize - 1) Block.zero)) Block.zero

/-- The greatest number of bytes in a password. -/
def longestPassword : Nat := 4294967295

/-- The stretched password. -/
def hash (parameters : Parameters) (password : List UInt8) : List UInt8 :=
  let memory := (places parameters).foldl (fillSlice parameters)
    (started parameters (parameters.seed password))
  stretched parameters.size ((lastBlocks parameters memory).words.flatMap ofWord64)

end Bearer.Digest.Argon2
