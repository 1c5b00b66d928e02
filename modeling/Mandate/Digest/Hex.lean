import Mandate.Text.Quoted

/-!
# Hexadecimal text of bytes

Bytes are written as two small hexadecimal digits each and read with digits of either case. The main
statement, `read?_write`, says that what was written reads back.
-/

namespace Mandate.Hex

/-- The two digits of a byte, the high half first. -/
def pair (b : UInt8) : List Char :=
  [Nat.digitChar (b.toNat / 16), Nat.digitChar (b.toNat % 16)]

/-- The digits of some bytes. -/
def write (bytes : List UInt8) : String :=
  String.ofList (bytes.flatMap pair)

def digit? (c : Char) : Option Nat :=
  if '0' ≤ c ∧ c ≤ '9' then some (c.toNat - 48)
  else if 'a' ≤ c ∧ c ≤ 'f' then some (c.toNat - 87)
  else if 'A' ≤ c ∧ c ≤ 'F' then some (c.toNat - 55)
  else none

/-- The bytes of a run of digits; none when a character is no digit or one is left over. -/
def pairs? : List Char → Option (List UInt8)
  | [] => some []
  | [_] => none
  | a :: b :: cs => do
    let a ← digit? a
    let b ← digit? b
    let rest ← pairs? cs
    return UInt8.ofNat (a * 16 + b) :: rest

/-- The bytes of a text of digits. -/
def read? (s : String) : Option (List UInt8) :=
  pairs? s.toList

theorem digit?_digitChar : ∀ n < 16, digit? (Nat.digitChar n) = some n := by
  decide

theorem pairs?_flatMap_pair (bytes : List UInt8) : pairs? (bytes.flatMap pair) = some bytes := by
  induction bytes with
  | nil => rfl
  | cons b bs ih =>
    have hb := b.toNat_lt
    have hlow := digit?_digitChar (b.toNat % 16) (by omega)
    have hhigh := digit?_digitChar (b.toNat / 16) (by omega)
    have hsum : b.toNat / 16 * 16 + b.toNat % 16 = b.toNat := by omega
    have hbyte : UInt8.ofNat (b.toNat / 16 * 16 + b.toNat % 16) = b := by
      rw [hsum, UInt8.ofNat_toNat]
    rw [List.flatMap_cons, pair, List.cons_append, List.cons_append, List.nil_append, pairs?, hhigh,
      hlow, ih]
    exact congrArg (fun c => some (c :: bs)) hbyte

theorem read?_write (bytes : List UInt8) : read? (write bytes) = some bytes := by
  simp [read?, write, pairs?_flatMap_pair]

theorem length_of_pairs? {cs : List Char} {bytes : List UInt8} (h : pairs? cs = some bytes) :
    cs.length = 2 * bytes.length := by
  induction cs using pairs?.induct generalizing bytes with
  | case1 => simp_all [pairs?]
  | case2 => simp [pairs?] at h
  | case3 a b cs ih =>
    simp only [pairs?, Option.bind_eq_bind, Option.bind_eq_some_iff, Option.pure_def,
      Option.some.injEq] at h
    obtain ⟨_, _, _, _, rest, hrest, rfl⟩ := h
    simp [ih hrest, Nat.mul_add]

/-! ## Digits of a fixed number of bytes -/

/-- Why a text is not the digits of a given number of bytes. -/
inductive Error where
  /-- The text has an odd number of bytes. -/
  | oddLength
  /-- The text has another number of bytes than the digits have. -/
  | wrongLength
  /-- A byte at this place is no digit. -/
  | badDigit (byte : UInt8) (position : Nat)
deriving DecidableEq

def Error.message : Error → String
  | .oddLength => "Odd number of digits"
  | .wrongLength => "Invalid string length"
  | .badDigit byte position =>
    "Invalid character " ++ Text.quotedChar (Char.ofNat byte.toNat) ++ " at position "
      ++ toString position

/-- The first byte that is no digit, with its place. -/
def firstBad? (bytes : List UInt8) : Option (UInt8 × Nat) :=
  (bytes.zipIdx).find? fun b => (digit? (Char.ofNat b.1.toNat)).isNone

/-- The given number of bytes, or why the text does not hold their digits. -/
def readExactly (count : Nat) (s : String) : Except Error (List UInt8) :=
  let raw := s.toUTF8.toList
  if raw.length % 2 = 1 then .error .oddLength
  else if raw.length ≠ 2 * count then .error .wrongLength
  else match firstBad? raw with
    | some (byte, position) => .error (.badDigit byte position)
    | none => match read? s with
      | some bytes => .ok bytes
      | none => .error .wrongLength

end Mandate.Hex
