import Mandate.Digest.Hex

/-!
# Audit ids

The ids that tell decisions and probes apart: sixteen bytes, written as five groups of hexadecimal
digits. The main statement, `ofText?_toText`, says that an id reads back from its text.
-/

namespace Mandate

/-- An id of sixteen bytes. -/
structure AuditId where
  bytes : List UInt8
  length_bytes : bytes.length = 16
deriving DecidableEq

namespace AuditId

/-- The id of sixteen random bytes, of which six bits give way to the marks of a random id. -/
def ofRandom? (bytes : List UInt8) : Option AuditId :=
  let marked := (bytes.modify 6 fun b => b &&& 0x0f ||| 0x40).modify 8 fun b => b &&& 0x3f ||| 0x80
  if h : marked.length = 16 then some ⟨marked, h⟩ else none

def zero : AuditId :=
  ⟨List.replicate 16 0, rfl⟩

/-- How many digits each group has. -/
def groups : List Nat :=
  [8, 4, 4, 4, 12]

/-- How many digits groups of the given sizes hold. -/
def width : List Nat → Nat
  | [] => 0
  | n :: ns => n + width ns

/-- Puts hyphens between groups of the given sizes. -/
def hyphenate : List Nat → List Char → List Char
  | [], cs => cs
  | [_], cs => cs
  | n :: ns, cs => cs.take n ++ '-' :: hyphenate ns (cs.drop n)

/-- Takes the hyphens between groups of the given sizes out again. -/
def unhyphenate? : List Nat → List Char → Option (List Char)
  | [], cs => some cs
  | [n], cs => if cs.length = n then some cs else none
  | n :: ns, cs =>
    match cs.drop n with
    | '-' :: rest => (unhyphenate? ns rest).map (cs.take n ++ ·)
    | _ => none

def toText (i : AuditId) : String :=
  String.ofList (hyphenate groups (i.bytes.flatMap Hex.pair))

/-- The id of 32 digits. -/
def ofDigits? (cs : List Char) : Option AuditId := do
  let bytes ← Hex.pairs? cs
  if h : bytes.length = 16 then some ⟨bytes, h⟩ else none

/-- What a text holds between braces or behind the mark of a uniform name. -/
def unwrapped (cs : List Char) : List Char :=
  if cs.length = 38 ∧ cs.head? = some '\x7b' ∧ cs.getLast? = some '\x7d' then
    (cs.drop 1).dropLast
  else if cs.length = 45 ∧ cs.take 9 = "urn:uuid:".toList then cs.drop 9
  else cs

/-- Reads an id: its 32 digits alone or in groups, these perhaps in braces or behind a mark. -/
def ofText? (s : String) : Option AuditId :=
  let cs := s.toList
  if cs.length = 32 then ofDigits? cs
  else (unhyphenate? groups (unwrapped cs)).bind ofDigits?

theorem ofDigits?_pairs (i : AuditId) : ofDigits? (i.bytes.flatMap Hex.pair) = some i := by
  simp [ofDigits?, Hex.pairs?_flatMap_pair, i.length_bytes]

theorem length_pairs (bytes : List UInt8) : (bytes.flatMap Hex.pair).length = 2 * bytes.length :=
  Hex.length_of_pairs? (Hex.pairs?_flatMap_pair bytes)

theorem length_hyphenate (ns : List Nat) (cs : List Char) (h : width ns.dropLast ≤ cs.length) :
    (hyphenate ns cs).length = cs.length + (ns.length - 1) := by
  induction ns generalizing cs with
  | nil => rfl
  | cons n ns ih =>
    cases ns with
    | nil => rfl
    | cons m ns =>
      have hn : n + width (m :: ns).dropLast ≤ cs.length := h
      have hrest : width (m :: ns).dropLast ≤ (cs.drop n).length := by
        rw [List.length_drop]; omega
      rw [hyphenate, List.length_append, List.length_cons, ih _ hrest]
      · simp only [List.length_take, List.length_drop, List.length_cons]; omega
      · simp

theorem unhyphenate?_hyphenate (ns : List Nat) (cs : List Char) (h : ns ≠ [])
    (hsum : width ns = cs.length) : unhyphenate? ns (hyphenate ns cs) = some cs := by
  induction ns generalizing cs with
  | nil => exact absurd rfl h
  | cons n ns ih =>
    cases ns with
    | nil => simpa [width, hyphenate, unhyphenate?, eq_comm] using hsum
    | cons m ns =>
      have hn : n + width (m :: ns) = cs.length := hsum
      have hle : n ≤ cs.length := by omega
      have hrest : width (m :: ns) = (cs.drop n).length := by rw [List.length_drop]; omega
      have hlen : (cs.take n).length = n := by simp [hle]
      have hdrop : (cs.take n ++ '-' :: hyphenate (m :: ns) (cs.drop n)).drop n
          = '-' :: hyphenate (m :: ns) (cs.drop n) := by
        rw [List.drop_append_of_le_length (by omega), List.drop_of_length_le (by omega)]; rfl
      have htake : (cs.take n ++ '-' :: hyphenate (m :: ns) (cs.drop n)).take n = cs.take n := by
        rw [List.take_append_of_le_length (by omega), List.take_of_length_le (by omega)]
      rw [hyphenate, unhyphenate?, hdrop]
      · simp only [ih _ (by simp) hrest, htake, Option.map_some, List.take_append_drop]
      all_goals simp

theorem ofText?_toText (i : AuditId) : ofText? i.toText = some i := by
  have hlen : (i.bytes.flatMap Hex.pair).length = 32 := by
    rw [length_pairs, i.length_bytes]
  have hhyph : (hyphenate groups (i.bytes.flatMap Hex.pair)).length = 36 := by
    rw [length_hyphenate _ _ (by rw [hlen]; decide), hlen]; rfl
  have hun : unwrapped (hyphenate groups (i.bytes.flatMap Hex.pair))
      = hyphenate groups (i.bytes.flatMap Hex.pair) := by
    simp [unwrapped, hhyph]
  rw [ofText?, toText, String.toList_ofList]
  simp only [hhyph, hun, Nat.reduceEqDiff, if_false]
  rw [unhyphenate?_hyphenate _ _ (by decide) (by rw [hlen]; decide)]
  exact ofDigits?_pairs i

end AuditId
end Mandate
