import Bearer.Digest.Words

/-!
# Keyed BLAKE3

The message is cut into chunks of 1024 bytes, the leaves of a binary tree whose left subtrees are
full. Each node is compressed to eight words under the key; the root gives the digest.
`length_digest` gives the length of the result.
-/

namespace Bearer.Digest.Blake3

/-- Eight words that stand for a part of the message. -/
abbrev Chaining := Vector UInt32 8

/-- Sixteen words of input or of working state. -/
abbrev Block := Vector UInt32 16

/-- The constants that fill a fresh state. -/
def initial : Vector UInt32 4 :=
  #v[0x6a09e667, 0xbb67ae85, 0x3c6ef372, 0xa54ff53a]

/-! The uses of the compression function are told apart by one bit each. -/

namespace Flags

/-- The first block of a chunk. -/
def chunkStart : UInt32 := 1

/-- The last block of a chunk. -/
def chunkEnd : UInt32 := 2

/-- A node with two children. -/
def parent : UInt32 := 4

/-- The root of the tree. -/
def root : UInt32 := 8

/-- A digest under a key. -/
def keyed : UInt32 := 16

end Flags

/-- Mixes four words of the state with two of the message. -/
def mix (state : Block) (a b c d : Fin 16) (first second : UInt32) : Block :=
  let a1 := state[a] + state[b] + first
  let d1 := rotate32 (state[d] ^^^ a1) 16
  let c1 := state[c] + d1
  let b1 := rotate32 (state[b] ^^^ c1) 12
  let a2 := a1 + b1 + second
  let d2 := rotate32 (d1 ^^^ a2) 8
  let c2 := c1 + d2
  let b2 := rotate32 (b1 ^^^ c2) 7
  (((state.set a a2).set b b2).set c c2).set d d2

/-- Mixes the columns of the state and then its diagonals. -/
def round (state message : Block) : Block :=
  let state := mix state 0 4 8 12 message[0] message[1]
  let state := mix state 1 5 9 13 message[2] message[3]
  let state := mix state 2 6 10 14 message[4] message[5]
  let state := mix state 3 7 11 15 message[6] message[7]
  let state := mix state 0 5 10 15 message[8] message[9]
  let state := mix state 1 6 11 12 message[10] message[11]
  let state := mix state 2 7 8 13 message[12] message[13]
  mix state 3 4 9 14 message[14] message[15]

/-- Where each word of the message comes from in the next round. -/
def order : Vector (Fin 16) 16 :=
  #v[2, 6, 3, 10, 7, 0, 4, 13, 1, 11, 12, 5, 9, 14, 15, 8]

/-- So many rounds, the message words permuted between them. -/
def rounds : Nat → Block → Block → Block
  | 0, state, _ => state
  | count + 1, state, message =>
    rounds count (round state message) (order.map fun source => message[source])

/-- A node of the tree before compression. -/
structure Node where
  /-- The words that the node starts from. -/
  chaining : Chaining
  /-- The message words of its last block. -/
  message : Block
  /-- The number of its chunk. -/
  counter : UInt64
  /-- The number of message bytes in the block. -/
  length : UInt32
  /-- The properties of the node. -/
  flags : UInt32

/-- The eight words of a node. -/
def Node.compress (node : Node) : Chaining :=
  let fresh := initial ++
    #v[node.counter.toUInt32, (node.counter >>> 32).toUInt32, node.length, node.flags]
  let state := rounds 7 (node.chaining ++ fresh) node.message
  .ofFn fun index => state[index.val] ^^^ state[index.val + 8]

/-- The message words of a block of at most 64 bytes. -/
def blockWords (block : List UInt8) : Block :=
  let words := (words32 (filled 64 block)).toArray
  .ofFn fun index => words.getD index.val 0

/-- The last block of a chunk, all blocks before it compressed. -/
def chunkNode (key : Chaining) (counter : UInt64) : UInt32 → List (List UInt8) → Node
  | start, [] => ⟨key, blockWords [], counter, 0, Flags.keyed ||| start ||| Flags.chunkEnd⟩
  | start, [block] =>
    ⟨key, blockWords block, counter, block.length.toUInt32,
      Flags.keyed ||| start ||| Flags.chunkEnd⟩
  | start, block :: rest =>
    let node : Node := ⟨key, blockWords block, counter, 64, Flags.keyed ||| start⟩
    chunkNode node.compress counter 0 rest

/-- The number of chunks in the left subtree: the greatest power of two below the whole. -/
def leftSize (chunks : Nat) : Nat :=
  1 <<< (chunks - 1).log2

theorem leftSize_bounds {chunks : Nat} (several : 1 < chunks) :
    0 < leftSize chunks ∧ leftSize chunks < chunks := by
  have positive : chunks - 1 ≠ 0 := by omega
  have low := Nat.log2_self_le positive
  rw [leftSize, Nat.one_shiftLeft]
  exact ⟨Nat.two_pow_pos _, by omega⟩

/-- The root of the tree over some chunks, of which the first has the given number. -/
def tree (key : Chaining) (counter : Nat) (chunks : List (List UInt8)) : Node :=
  if several : 1 < chunks.length then
    let size := leftSize chunks.length
    have := leftSize_bounds several
    let left := (tree key counter (chunks.take size)).compress
    let right := (tree key (counter + size) (chunks.drop size)).compress
    ⟨key, left ++ right, 0, 64, Flags.keyed ||| Flags.parent⟩
  else chunkNode key counter.toUInt64 Flags.chunkStart (pieces 64 chunks.flatten)
termination_by chunks.length
decreasing_by
  · simp only [List.length_take]; omega
  · simp only [List.length_drop]; omega

/-- The words of a key of 32 bytes. -/
def keyWords (key : List UInt8) : Chaining :=
  let words := (words32 (filled 32 key)).toArray
  .ofFn fun index => words.getD index.val 0

/-- The digest of a message under a key of 32 bytes. -/
def digest (key message : List UInt8) : List UInt8 :=
  let node := tree (keyWords key) 0 (pieces 1024 message)
  let root := Node.compress { node with counter := 0, flags := node.flags ||| Flags.root }
  root.toList.flatMap ofWord32

/-- A digest has 32 bytes. -/
@[simp]
theorem length_digest (key message : List UInt8) : (digest key message).length = 32 := by
  simp [digest, List.length_flatMap, List.map_const', List.replicate]

end Bearer.Digest.Blake3
