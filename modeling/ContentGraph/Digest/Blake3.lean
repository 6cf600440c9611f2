import ContentGraph.Text.Utf8

/-!
Contract: the BLAKE3 hash of a byte sequence, 32 bytes, as hexadecimal text.

Owns:
- the compression of one block of sixteen words, seven rounds with a permuted message schedule;
- chunks of 1024 bytes chained block by block, and the binary tree over them, whose left
  subtree has the greatest power of two of chunks that leaves some for the right;
- the hexadecimal form of the first 256 output bits.

Does not own: keyed hashing, key derivation and longer outputs.
-/

namespace ContentGraph.Digest.Blake3

/-- Words of 32 bits. -/
abbrev Words := Array UInt32

/-- The initial chaining value. -/
def initialWords : Words := #[
  0x6A09E667, 0xBB67AE85, 0x3C6EF372, 0xA54FF53A, 0x510E527F, 0x9B05688C, 0x1F83D9AB, 0x5BE0CD19]

/-- The place from which each message word is taken for the next round. -/
def schedule : Array Nat := #[2, 6, 3, 10, 7, 0, 4, 13, 1, 11, 12, 5, 9, 14, 15, 8]

/-- A word, or zero outside of the bounds. -/
def wordAt (words : Words) (index : Nat) : UInt32 :=
  words.getD index 0

/-- Rotation to the right. -/
def rotateRight (word : UInt32) (count : UInt32) : UInt32 :=
  (word >>> count) ||| (word <<< (32 - count))

/-- Mixes two message words into four words of the state. -/
def mix (state : Words) (a b c d : Nat) (x y : UInt32) : Words :=
  let va := wordAt state a + wordAt state b + x
  let vd := rotateRight (wordAt state d ^^^ va) 16
  let vc := wordAt state c + vd
  let vb := rotateRight (wordAt state b ^^^ vc) 12
  let va := va + vb + y
  let vd := rotateRight (vd ^^^ va) 8
  let vc := vc + vd
  let vb := rotateRight (vb ^^^ vc) 7
  (((state.setIfInBounds a va).setIfInBounds b vb).setIfInBounds c vc).setIfInBounds d vd

/-- The columns and then the diagonals of the state, with their places in the message. -/
def lanes : List (Nat × Nat × Nat × Nat × Nat) := [
  (0, 4, 8, 12, 0), (1, 5, 9, 13, 2), (2, 6, 10, 14, 4), (3, 7, 11, 15, 6),
  (0, 5, 10, 15, 8), (1, 6, 11, 12, 10), (2, 7, 8, 13, 12), (3, 4, 9, 14, 14)]

/-- One round. -/
def round (state message : Words) : Words :=
  lanes.foldl
    (fun state (a, b, c, d, place) =>
      mix state a b c d (wordAt message place) (wordAt message (place + 1)))
    state

/-- A number of rounds, the message permuted after each. -/
def rounds : Nat -> Words -> Words -> Words
  | 0, state, _ => state
  | count + 1, state, message =>
      rounds count (round state message) (schedule.map (wordAt message))

/-- The first block of a chunk. -/
def chunkStart : UInt32 := 1

/-- The last block of a chunk. -/
def chunkEnd : UInt32 := 2

/-- A parent of two chaining values. -/
def parent : UInt32 := 4

/-- The top of the tree. -/
def root : UInt32 := 8

/-- The chaining value after a block. -/
def compress (chaining block : Words) (counter : Nat) (length : Nat) (flags : UInt32) : Words :=
  let state := chaining ++ initialWords.extract 0 4
    ++ #[UInt32.ofNat (counter % Nat.pow 2 32), UInt32.ofNat (counter / Nat.pow 2 32),
      UInt32.ofNat length, flags]
  let final := rounds 7 state block
  (Array.range 8).map fun index => wordAt final index ^^^ wordAt final (index + 8)

/-- The sixteen little-endian words of a block, filled up with zeros. -/
def blockWords (bytes : List UInt8) : Words :=
  (Array.range 16).map fun index =>
    ((bytes.drop (4 * index)).take 4).foldr (fun byte word => word * 256 + byte.toUInt32) 0

/-- The chaining value of a chunk, block by block, by at most `fuel` blocks. -/
def chunkFrom (counter : Nat) (extra : UInt32) :
    Nat -> UInt32 -> Words -> List UInt8 -> Words
  | 0, _, chaining, _ => chaining
  | fuel + 1, flags, chaining, bytes =>
      let block := bytes.take 64
      let rest := bytes.drop 64
      if rest.isEmpty then
        compress chaining (blockWords block) counter block.length (flags ||| chunkEnd ||| extra)
      else
        chunkFrom counter extra fuel 0
          (compress chaining (blockWords block) counter block.length flags) rest

/-- The chaining value of a chunk. -/
def chunk (counter : Nat) (extra : UInt32) (bytes : List UInt8) : Words :=
  chunkFrom counter extra 16 chunkStart initialWords bytes

/-- The greatest power of two below a count above one. -/
def leftCount (count : Nat) : Nat :=
  Nat.pow 2 (count - 1).log2

/-- The chaining value of the tree over a number of chunks, by at most `fuel` levels. -/
def tree (extra : UInt32) : Nat -> Nat -> Nat -> List UInt8 -> Words
  | 0, counter, _, bytes => chunk counter extra bytes
  | fuel + 1, counter, count, bytes =>
      if count ≤ 1 then chunk counter extra bytes
      else
        let left := leftCount count
        let cut := 1024 * left
        let leftValue := tree 0 fuel counter left (bytes.take cut)
        let rightValue := tree 0 fuel (counter + left) (count - left) (bytes.drop cut)
        compress initialWords (leftValue ++ rightValue) 0 64 (parent ||| extra)

/-- One hexadecimal digit in lower case. -/
def hexDigit (value : Nat) : Char :=
  if value < 10 then Char.ofNat (48 + value) else Char.ofNat (87 + value)

/-- The bytes of a word, the least significant first, two digits each. -/
def wordText (word : UInt32) : List Char :=
  [0, 1, 2, 3].flatMap fun place =>
    let byte := word.toNat / Nat.pow 256 place % 256
    [hexDigit (byte / 16), hexDigit (byte % 16)]

/-- The hash of a byte sequence. -/
def hashBytes (bytes : List UInt8) : String :=
  let count := (bytes.length + 1023) / 1024
  String.ofList ((tree root 64 0 count bytes).toList.flatMap wordText)

/-- The hash of a text in UTF-8. -/
def hashText (text : String) : String :=
  hashBytes (Text.Utf8.encode text.toList)

end ContentGraph.Digest.Blake3
