import Mandate.Digest.Blake3
import Mandate.Digest.Hex

/-!
# Frame identity

The identity of a frame is a hash of the set of its matched tokens. What is hashed lists each
distinct token once, in increasing order, behind its length in bytes.
-/

namespace Mandate

/-- A digest of 32 bytes. -/
structure Identity where
  bytes : List UInt8
  length_bytes : bytes.length = 32
deriving DecidableEq

namespace Identity

/-- The distinct texts of a list in increasing order. -/
def distinct (tokens : List String) : List String :=
  (tokens.mergeSort fun a b => a ≤ b).eraseReps

theorem mem_eraseReps_loop {x a : String} {l acc : List String} :
    x ∈ List.eraseRepsBy.loop (· == ·) a l acc ↔ x = a ∨ x ∈ l ∨ x ∈ acc := by
  induction l generalizing a acc with
  | nil => simp [List.eraseRepsBy.loop, or_comm]
  | cons b l ih =>
    rw [List.eraseRepsBy.loop]
    split
    next h =>
      -- The text is a repetition of the one before it.
      obtain rfl : a = b := by simpa using h
      simp [ih, ← or_assoc]
    next h => simp [ih, or_left_comm, or_assoc]

theorem mem_eraseReps {x : String} {l : List String} : x ∈ l.eraseReps ↔ x ∈ l := by
  cases l with
  | nil => rfl
  | cons a l => simp [List.eraseReps, List.eraseRepsBy, mem_eraseReps_loop]

@[simp] theorem mem_distinct {x : String} {tokens : List String} :
    x ∈ distinct tokens ↔ x ∈ tokens := by
  rw [distinct, mem_eraseReps, List.mem_mergeSort]

theorem distinct_singleton (text : String) : distinct [text] = [text] := by
  simp [distinct, List.eraseReps, List.eraseRepsBy, List.eraseRepsBy.loop]

/-- A count as four bytes, the lowest first. -/
def lengthBytes (n : Nat) : List UInt8 :=
  [UInt8.ofNat n, UInt8.ofNat (n >>> 8), UInt8.ofNat (n >>> 16), UInt8.ofNat (n >>> 24)]

/-- A text behind its length in bytes. -/
def framed (token : String) : List UInt8 :=
  let bytes := token.toUTF8.toList
  lengthBytes bytes.length ++ bytes

/-- The bytes that stand for a set of tokens. -/
def feed (tokens : List String) : List UInt8 :=
  (distinct tokens).flatMap framed

def ofTokens (tokens : List String) : Identity :=
  ⟨Blake3.hash (feed tokens), Blake3.length_hash _⟩

/-- The identity as 64 hexadecimal digits. -/
def toHex (i : Identity) : String :=
  Hex.write i.bytes

/-- Reads 64 hexadecimal digits. -/
def ofHex (s : String) : Except Hex.Error Identity :=
  match Hex.readExactly 32 s with
  | .error e => .error e
  | .ok bytes => if h : bytes.length = 32 then .ok ⟨bytes, h⟩ else .error .wrongLength

end Identity
end Mandate
