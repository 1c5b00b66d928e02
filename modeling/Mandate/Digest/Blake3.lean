/-!
# The BLAKE3 hash

Hashes a list of bytes to 32 bytes. The input is cut into chunks of 1024 bytes, each chunk into
blocks of 64 bytes; chunks are joined in a tree whose left branch is as large a power of two as can
be.
-/

namespace Mandate.Blake3

/-- The state words that a compression starts from. -/
def initial : Vector UInt32 8 :=
  #v[0x6A09E667, 0xBB67AE85, 0x3C6EF372, 0xA54FF53A, 0x510E527F, 0x9B05688C, 0x1F83D9AB, 0x5BE0CD19]

/-- The order in which a round's message words pass to the next round. -/
def permutation : Vector (Fin 16) 16 :=
  #v[2, 6, 3, 10, 7, 0, 4, 13, 1, 11, 12, 5, 9, 14, 15, 8]

def chunkStart : UInt32 := 1
def chunkEnd : UInt32 := 2
def parent : UInt32 := 4
def root : UInt32 := 8

/-- The word turned right by some bits. -/
def rotateRight (x n : UInt32) : UInt32 :=
  (x >>> n) ||| (x <<< (32 - n))

/-- Mixes two message words into a column or a diagonal of the state. -/
def mix (v : Vector UInt32 16) (a b c d : Fin 16) (x y : UInt32) : Vector UInt32 16 :=
  let v := v.set a (v[a] + v[b] + x)
  let v := v.set d (rotateRight (v[d] ^^^ v[a]) 16)
  let v := v.set c (v[c] + v[d])
  let v := v.set b (rotateRight (v[b] ^^^ v[c]) 12)
  let v := v.set a (v[a] + v[b] + y)
  let v := v.set d (rotateRight (v[d] ^^^ v[a]) 8)
  let v := v.set c (v[c] + v[d])
  v.set b (rotateRight (v[b] ^^^ v[c]) 7)

/-- One round: the four columns, then the four diagonals. -/
def round (v m : Vector UInt32 16) : Vector UInt32 16 :=
  let v := mix v 0 4 8 12 m[0] m[1]
  let v := mix v 1 5 9 13 m[2] m[3]
  let v := mix v 2 6 10 14 m[4] m[5]
  let v := mix v 3 7 11 15 m[6] m[7]
  let v := mix v 0 5 10 15 m[8] m[9]
  let v := mix v 1 6 11 12 m[10] m[11]
  let v := mix v 2 7 8 13 m[12] m[13]
  mix v 3 4 9 14 m[14] m[15]

/-- Some rounds, with the message words reordered between them. -/
def rounds : Nat → Vector UInt32 16 → Vector UInt32 16 → Vector UInt32 16
  | 0, v, _ => v
  | n + 1, v, m => rounds n (round v m) (permutation.map fun i => m[i])

/-- The input of a compression. -/
structure Node where
  chaining : Vector UInt32 8
  block : Vector UInt32 16
  counter : Nat
  length : Nat
  flags : UInt32

/-- The first half of the compressed state, which names the node in its parent. -/
def Node.compress (n : Node) : Vector UInt32 8 :=
  let h := n.chaining
  let start : Vector UInt32 16 :=
    #v[h[0], h[1], h[2], h[3], h[4], h[5], h[6], h[7],
      initial[0], initial[1], initial[2], initial[3],
      UInt32.ofNat n.counter, UInt32.ofNat (n.counter >>> 32), UInt32.ofNat n.length, n.flags]
  let v := rounds 7 start n.block
  #v[v[0] ^^^ v[8], v[1] ^^^ v[9], v[2] ^^^ v[10], v[3] ^^^ v[11],
    v[4] ^^^ v[12], v[5] ^^^ v[13], v[6] ^^^ v[14], v[7] ^^^ v[15]]

/-- The word of the four bytes from an index on, the lowest first; missing bytes are zero. -/
def word (bytes : List UInt8) (i : Nat) : UInt32 :=
  let b := bytes.drop (4 * i)
  let part (k : Nat) : UInt32 := (b.getD k 0).toUInt32
  part 0 ||| (part 1 <<< 8) ||| (part 2 <<< 16) ||| (part 3 <<< 24)

/-- The message words of a block. -/
def blockWords (bytes : List UInt8) : Vector UInt32 16 :=
  Vector.ofFn fun i => word bytes i.val

/-- Cuts a list into pieces of a positive size; the last may be shorter, and there is always one. -/
def pieces (size : Nat) (hsize : 0 < size) (bytes : List UInt8) : List (List UInt8) :=
  if bytes.length ≤ size then [bytes]
  else bytes.take size :: pieces size hsize (bytes.drop size)
termination_by bytes.length
decreasing_by simp only [List.length_drop]; omega

/-- The last node of a chunk, after all its earlier blocks. -/
def chunkNode (counter : Nat) : UInt32 → Vector UInt32 8 → List (List UInt8) → Node
  | start, chaining, [] => ⟨chaining, blockWords [], counter, 0, start ||| chunkEnd⟩
  | start, chaining, [b] => ⟨chaining, blockWords b, counter, b.length, start ||| chunkEnd⟩
  | start, chaining, b :: bs =>
    chunkNode counter 0 (Node.compress ⟨chaining, blockWords b, counter, b.length, start⟩) bs

/-- The node over two subtrees. -/
def join (left right : Vector UInt32 8) : Node :=
  ⟨initial, left ++ right, 0, 64, parent⟩

/-- The node over the chunks from a counter on. -/
def tree (counter : Nat) (chunks : List (List UInt8)) : Node :=
  if h : chunks.length ≤ 1 then
    chunkNode counter chunkStart initial (pieces 64 (by decide) (chunks.headD []))
  else
    let split := Nat.pow 2 (chunks.length - 1).log2
    have hpos : 0 < split := Nat.two_pow_pos _
    have hlt : split < chunks.length :=
      Nat.lt_of_le_of_lt (Nat.log2_self_le (by omega)) (Nat.sub_lt (by omega) Nat.one_pos)
    join (tree counter (chunks.take split)).compress
      (tree (counter + split) (chunks.drop split)).compress
termination_by chunks.length
decreasing_by
  · simp only [List.length_take]; omega
  · simp only [List.length_drop]; omega

/-- The four bytes of a word, the lowest first. -/
def wordBytes (w : UInt32) : List UInt8 :=
  [w.toUInt8, (w >>> 8).toUInt8, (w >>> 16).toUInt8, (w >>> 24).toUInt8]

def hash (bytes : List UInt8) : List UInt8 :=
  let top := tree 0 (pieces 1024 (by decide) bytes)
  (Node.compress { top with flags := top.flags ||| root }).toList.flatMap wordBytes

theorem length_flatMap_wordBytes (ws : List UInt32) :
    (ws.flatMap wordBytes).length = 4 * ws.length := by
  induction ws with
  | nil => rfl
  | cons w ws ih => simp [wordBytes, ih, Nat.mul_add]

theorem length_hash (bytes : List UInt8) : (hash bytes).length = 32 := by
  rw [hash, length_flatMap_wordBytes, Vector.length_toList]

end Mandate.Blake3
