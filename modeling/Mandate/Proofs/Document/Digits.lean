import Mandate.Frame.Identity

/-!
# The digits of an identity

The text of some bytes is made of hexadecimal digits only, each of which is one byte of the text, so
it reads back as that many bytes.
-/

namespace Mandate

/-! ## The bytes of a text of digits -/

namespace Hex

theorem toList_loop (bytes : ByteArray) (i : Nat) (acc : List UInt8) :
    ByteArray.toList.loop bytes i acc = acc.reverse ++ bytes.data.toList.drop i := by
  fun_induction ByteArray.toList.loop bytes i acc with
  | case1 i acc hlt ih =>
      have hlt' : i < bytes.data.toList.length := hlt
      have hget : bytes.get! i = bytes.data.toList[i] := by
        cases bytes
        exact getElem!_pos _ i hlt
      rw [ih, hget, List.reverse_cons, List.append_assoc, List.drop_eq_getElem_cons hlt',
        List.singleton_append]
  | case2 i acc hle =>
      have hnil : bytes.data.toList.drop i = [] := List.drop_eq_nil_of_le (Nat.le_of_not_lt hle)
      rw [hnil, List.append_nil]

theorem toUTF8_toList_ofList (cs : List Char) :
    (String.ofList cs).toUTF8.toList = cs.flatMap String.utf8EncodeChar := by
  rw [ByteArray.toList, toList_loop, String.toUTF8, String.toByteArray_ofList, List.utf8Encode,
    List.data_toByteArray]
  rfl

/-- The byte that stands for a digit. -/
def digitByte (n : Nat) : UInt8 :=
  UInt8.ofNat (Nat.digitChar n).toNat

theorem utf8EncodeChar_digitChar : ∀ n < 16,
    String.utf8EncodeChar (Nat.digitChar n) = [digitByte n] := by
  decide

theorem digit?_digitByte : ∀ n < 16, digit? (Char.ofNat (digitByte n).toNat) = some n := by
  decide

theorem flatMap_pair (b : UInt8) :
    (pair b).flatMap String.utf8EncodeChar =
      [digitByte (b.toNat / 16), digitByte (b.toNat % 16)] := by
  have hb := b.toNat_lt
  rw [pair, List.flatMap_cons, List.flatMap_singleton, utf8EncodeChar_digitChar _ (by omega),
    utf8EncodeChar_digitChar _ (by omega), List.singleton_append]

theorem toUTF8_toList_write (bytes : List UInt8) :
    (write bytes).toUTF8.toList =
      bytes.flatMap fun b => [digitByte (b.toNat / 16), digitByte (b.toNat % 16)] := by
  rw [write, toUTF8_toList_ofList, List.flatMap_assoc]
  simp only [flatMap_pair]

theorem firstBad?_toUTF8_write (bytes : List UInt8) :
    firstBad? (write bytes).toUTF8.toList = none := by
  rw [firstBad?, List.find?_eq_none]
  intro x hx
  have hmem := List.fst_mem_of_mem_zipIdx hx
  rw [toUTF8_toList_write] at hmem
  obtain ⟨b, -, hdigit⟩ := List.mem_flatMap.1 hmem
  rw [List.mem_cons, List.mem_singleton] at hdigit
  have hb := b.toNat_lt
  obtain ⟨n, hn, hx⟩ : ∃ n < 16, x.1 = digitByte n := by
    rcases hdigit with h | h
    · exact ⟨_, by omega, h⟩
    · exact ⟨_, by omega, h⟩
  rw [hx, digit?_digitByte n hn]
  exact Bool.false_ne_true

theorem length_toUTF8_write (bytes : List UInt8) :
    (write bytes).toUTF8.toList.length = 2 * bytes.length := by
  rw [toUTF8_toList_write]
  induction bytes with
  | nil => rfl
  | cons b bytes ih =>
      rw [List.flatMap_cons, List.length_append, ih]
      simp only [List.length_cons, List.length_nil]
      omega

theorem readExactly_write (bytes : List UInt8) :
    readExactly bytes.length (write bytes) = .ok bytes := by
  rw [readExactly, length_toUTF8_write, firstBad?_toUTF8_write, read?_write, if_neg (by omega),
    if_neg (by omega)]

end Hex

theorem Identity.ofHex_toHex (i : Identity) : ofHex i.toHex = .ok i := by
  have hread : Hex.readExactly 32 i.toHex = .ok i.bytes := by
    rw [← i.length_bytes]
    exact Hex.readExactly_write i.bytes
  simp only [ofHex, hread, i.length_bytes, dite_true]

end Mandate
