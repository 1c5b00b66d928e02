import Mandate.Sensitive.Luhn

/-!
# Slips that the check digit detects

A digit counts as much as no other one does in its place, up to a multiple of ten, and two different
neighbours count otherwise when they change places, zero and nine apart. So neither slip leaves a
valid number valid (`isValid_detects`). What stands between the digits does not count.
-/

namespace Mandate.Luhn

/-! ## What a digit counts -/

/-- What a digit counts in a doubled place, or in another one. -/
def counted (isDoubled : Bool) (d : Nat) : Nat :=
  if isDoubled then doubled d else d

theorem eq_of_counted_mod_ten : ∀ (b : Bool), ∀ d < 10, ∀ e < 10,
    counted b d % 10 = counted b e % 10 → d = e := by
  decide

/-- Zero and nine count the same whether they are doubled or not, and they are the only two. -/
theorem eq_or_zero_nine_of_counted_mod_ten : ∀ (b : Bool), ∀ d < 10, ∀ e < 10,
    (counted b d + counted (!b) e) % 10 = (counted b e + counted (!b) d) % 10 →
      d = e ∨ (d = 0 ∧ e = 9) ∨ (d = 9 ∧ e = 0) := by
  decide

/-- The sum of digits of which every second counts double, from the first on if the flag is set. -/
def alternating : Bool → List Nat → Nat
  | _, [] => 0
  | b, d :: ds => counted b d + alternating (!b) ds

theorem weightedSum_eq (ds : List Nat) : weightedSum ds = alternating false ds := by
  fun_induction weightedSum ds with
  | case1 => rfl
  | case2 d => rfl
  | case3 d e ds ih =>
      rw [ih]
      exact Nat.add_assoc ..

/-- Digits that follow others count the same whichever those are, so long as they are as many. -/
theorem exists_alternating_append (b : Bool) (n : Nat) :
    ∃ b', ∀ ds es : List Nat, ds.length = n →
      alternating b (ds ++ es) = alternating b ds + alternating b' es := by
  induction n generalizing b with
  | zero =>
      refine ⟨b, fun ds es h => ?_⟩
      obtain rfl := List.length_eq_zero_iff.1 h
      exact (Nat.zero_add _).symm
  | succ n ih =>
      obtain ⟨b', hb'⟩ := ih (!b)
      refine ⟨b', fun ds es h => ?_⟩
      cases ds with
      | nil => cases h
      | cons d ds =>
          simp only [List.cons_append, alternating, hb' ds es (Nat.succ.inj h), Nat.add_assoc]

variable {d e : Nat}

/-- Two numbers that differ in one digit do not count the same. -/
theorem eq_of_alternating_mod_ten (hd : d < 10) (he : e < 10) (ds es : List Nat)
    (h : alternating false (ds ++ d :: es) % 10 = alternating false (ds ++ e :: es) % 10) :
    d = e := by
  obtain ⟨b, hb⟩ := exists_alternating_append false ds.length
  simp only [hb ds _ rfl, alternating] at h
  exact eq_of_counted_mod_ten b d hd e he (by omega)

/-- Two neighbours that change places do not count the same, zero and nine apart. -/
theorem eq_or_zero_nine_of_alternating_mod_ten (hd : d < 10) (he : e < 10) (ds es : List Nat)
    (h : alternating false (ds ++ d :: e :: es) % 10 =
      alternating false (ds ++ e :: d :: es) % 10) :
    d = e ∨ (d = 0 ∧ e = 9) ∨ (d = 9 ∧ e = 0) := by
  obtain ⟨b, hb⟩ := exists_alternating_append false ds.length
  simp only [hb ds _ rfl, alternating] at h
  exact eq_or_zero_nine_of_counted_mod_ten b d hd e he (by omega)

/-! ## The digits of a text -/

/-- The value of a digit character. -/
def value (c : Char) : Nat :=
  c.toNat - '0'.toNat

theorem digits_append (cs cs' : List Char) : digits (cs ++ cs') = digits cs ++ digits cs' := by
  simp [digits]

theorem digits_cons_of_isDigit {c : Char} (h : c.isDigit = true) (cs : List Char) :
    digits (c :: cs) = value c :: digits cs := by
  simp [digits, value, h]

theorem digits_eq_nil {cs : List Char} (h : ∀ c ∈ cs, c.isDigit = false) : digits cs = [] := by
  simp [digits, List.filter_eq_nil_iff.2 fun c hc => Bool.eq_false_iff.1 (h c hc)]

theorem toNat_of_isDigit {c : Char} (h : c.isDigit = true) : 48 ≤ c.toNat ∧ c.toNat ≤ 57 := by
  simpa [Char.isDigit, UInt32.le_iff_toNat_le] using h

theorem value_lt_ten {c : Char} (h : c.isDigit = true) : value c < 10 := by
  have hbounds := toNat_of_isDigit h
  have hzero : '0'.toNat = 48 := rfl
  rw [value, hzero]
  omega

theorem eq_of_value_eq {c c' : Char} (hc : c.isDigit = true) (hc' : c'.isDigit = true)
    (h : value c = value c') : c = c' := by
  have hbounds := toNat_of_isDigit hc
  have hbounds' := toNat_of_isDigit hc'
  have hzero : '0'.toNat = 48 := rfl
  rw [value, value, hzero] at h
  exact Char.toNat_inj.1 (by omega)

/-! ## Slips -/

/-- One digit of the text is replaced by another one. -/
inductive Misread : List Char → List Char → Prop where
  | mk (before after : List Char) {c c' : Char} (hc : c.isDigit = true) (hc' : c'.isDigit = true)
      (hne : c ≠ c') : Misread (before ++ c :: after) (before ++ c' :: after)

/-- Two different digits change places, between which there is no other one and which are not zero
and nine. -/
inductive Transposed : List Char → List Char → Prop where
  | mk (before between after : List Char) {c c' : Char} (hc : c.isDigit = true)
      (hc' : c'.isDigit = true) (hbetween : ∀ x ∈ between, x.isDigit = false) (hne : c ≠ c')
      (hzero : ¬ (c = '0' ∧ c' = '9')) (hnine : ¬ (c = '9' ∧ c' = '0')) :
      Transposed (before ++ c :: (between ++ c' :: after)) (before ++ c' :: (between ++ c :: after))

/-- The second text is the first with characters put in that are no digits. -/
inductive Marked : List Char → List Char → Prop where
  | done : Marked [] []
  | keep (c : Char) {cs cs' : List Char} (rest : Marked cs cs') : Marked (c :: cs) (c :: cs')
  | put {c : Char} (hc : c.isDigit = false) {cs cs' : List Char} (rest : Marked cs cs') :
      Marked cs (c :: cs')

variable {cs cs' : List Char}

/-- A text of as many digits as a valid one is invalid if it counts otherwise. -/
theorem isValid_eq_false_of_valid (h : isValid cs = true)
    (hcount : alternating false (digits cs).reverse % 10 ≠
      alternating false (digits cs').reverse % 10) : isValid cs' = false := by
  simp only [isValid, weightedSum_eq, Bool.and_eq_true, beq_iff_eq] at h
  rw [h.2] at hcount
  simp [isValid, weightedSum_eq, hcount.symm]

theorem Misread.isValid_eq_false (slip : Misread cs cs') (h : isValid cs = true) :
    isValid cs' = false := by
  obtain ⟨before, after, hc, hc', hne⟩ := slip
  refine isValid_eq_false_of_valid h fun hcount => ?_
  simp only [digits_append, digits_cons_of_isDigit, hc, hc', List.reverse_append,
    List.reverse_cons, List.append_assoc, List.singleton_append] at hcount
  have hvalue := eq_of_alternating_mod_ten (value_lt_ten hc) (value_lt_ten hc') _ _ hcount
  exact hne (eq_of_value_eq hc hc' hvalue)

theorem Transposed.isValid_eq_false (slip : Transposed cs cs') (h : isValid cs = true) :
    isValid cs' = false := by
  obtain ⟨before, between, after, hc, hc', hbetween, hne, hzero, hnine⟩ := slip
  refine isValid_eq_false_of_valid h fun hcount => ?_
  simp only [digits_append, digits_cons_of_isDigit, hc, hc', digits_eq_nil hbetween,
    List.nil_append, List.reverse_append, List.reverse_cons, List.append_assoc,
    List.singleton_append] at hcount
  rcases eq_or_zero_nine_of_alternating_mod_ten (value_lt_ten hc') (value_lt_ten hc) _ _ hcount
    with hvalue | ⟨hvalue', hvalue⟩ | ⟨hvalue', hvalue⟩
  · exact hne (eq_of_value_eq hc hc' hvalue.symm)
  · exact hnine ⟨eq_of_value_eq hc (by decide) hvalue, eq_of_value_eq hc' (by decide) hvalue'⟩
  · exact hzero ⟨eq_of_value_eq hc (by decide) hvalue, eq_of_value_eq hc' (by decide) hvalue'⟩

theorem Marked.append (before : List Char) (marks : Marked cs cs') :
    Marked (before ++ cs) (before ++ cs') := by
  induction before with
  | nil => exact marks
  | cons c before ih => exact ih.keep c

theorem Marked.digits_eq (marks : Marked cs cs') : digits cs' = digits cs := by
  have hcons (c : Char) (cs : List Char) : digits (c :: cs) = digits [c] ++ digits cs :=
    digits_append [c] cs
  induction marks with
  | done => rfl
  | keep c _ ih => rw [hcons, ih, ← hcons]
  | @put c hc cs cs' _ ih =>
      have hnone : digits [c] = [] := digits_eq_nil (by simpa using hc)
      rw [hcons, hnone, ih, List.nil_append]

/-- A valid number is no longer valid when one of its digits is replaced by another one, nor when
two neighbouring digits change places that differ and are not zero and nine. Characters that are no
digits can be put into any text and left out of it without a difference. -/
theorem isValid_detects :
    (∀ cs cs', isValid cs = true → Misread cs cs' ∨ Transposed cs cs' → isValid cs' = false) ∧
    ∀ cs cs', Marked cs cs' → isValid cs' = isValid cs := by
  refine ⟨fun cs cs' h slip => ?_, fun cs cs' marks => ?_⟩
  · rcases slip with misread | transposed
    · exact misread.isValid_eq_false h
    · exact transposed.isValid_eq_false h
  · rw [isValid, isValid, marks.digits_eq]

/-- A first digit misread, two digits transposed over a blank, and hyphens in place of blanks. -/
theorem isValid_detects_blanks :
    let number := "4012 8888 8888 1881".toList
    (isValid number = true ∧ Misread number "5012 8888 8888 1881".toList ∧
      Transposed number "4018 2888 8888 1881".toList ∧
      Marked "4012888888881881".toList number ∧
      Marked "4012888888881881".toList "4012-8888-8888-1881".toList) ∧
    isValid "5012 8888 8888 1881".toList = false ∧
    isValid "4018 2888 8888 1881".toList = false ∧
    isValid "4012-8888-8888-1881".toList = isValid number := by
  intro number
  have valid : isValid number = true := by decide
  have misread : Misread number "5012 8888 8888 1881".toList := by
    simpa [number] using Misread.mk [] "012 8888 8888 1881".toList
      (show '4'.isDigit = true by decide) (show '5'.isDigit = true by decide) (by decide)
  have transposed : Transposed number "4018 2888 8888 1881".toList := by
    simpa [number] using Transposed.mk "401".toList [' '] "888 8888 1881".toList
      (show '2'.isDigit = true by decide) (show '8'.isDigit = true by decide)
      (List.forall_mem_singleton.2 (by decide)) (by decide) (by decide) (by decide)
  have marked (mark : Char) (hmark : mark.isDigit = false) :=
    Marked.append "4012".toList <| .put hmark <| .append "8888".toList <| .put hmark <|
      .append "8888".toList <| .put hmark <| .append "1881".toList .done
  have blanks : Marked "4012888888881881".toList number := by
    simpa [number] using marked ' ' (by decide)
  have hyphens : Marked "4012888888881881".toList "4012-8888-8888-1881".toList := by
    simpa using marked '-' (by decide)
  obtain ⟨slips, marks⟩ := isValid_detects
  exact ⟨⟨valid, misread, transposed, blanks, hyphens⟩, slips _ _ valid (.inl misread),
    slips _ _ valid (.inr transposed), (marks _ _ hyphens).trans (marks _ _ blanks).symm⟩

end Mandate.Luhn
