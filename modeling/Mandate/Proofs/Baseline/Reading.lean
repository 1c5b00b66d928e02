import Mandate.Baseline
import Mandate.Text.Blank

/-!
# Equal interpretations

Two interpretations are the same reading when they have the same words, whatever blanks stand
between and around them, and whatever the letter case of a word is (`SameWords`). The program joins
the words with single spaces and takes the whole in small letters. Letter case does not look past a
space, so each word is taken in small letters as if it stood alone, and as no small letter is blank,
these are the words of what comes out (`hasWords_normalized`). So the program takes two
interpretations for equal exactly if they are the same reading: `normalized_eq_iff`. The small
letters themselves are the library's own as long as a word is ASCII (`lowered_of_ascii`).
-/

namespace Mandate

namespace Text

/-! ## Words -/

/-- These are the words of a text, in order: blanks stand around them, and at least one between two
of them. -/
inductive HasWords : List Char → List (List Char) → Prop
  | nil : HasWords [] []
  | blank {c : Char} {cs : List Char} {ws : List (List Char)} (hc : isBlank c = true)
      (h : HasWords cs ws) : HasWords (c :: cs) ws
  | word {w cs : List Char} {ws : List (List Char)} (hne : w ≠ [])
      (hw : ∀ c ∈ w, isBlank c = false) (hend : ∀ c ∈ cs.head?, isBlank c = true)
      (h : HasWords cs ws) : HasWords (w ++ cs) (w :: ws)

variable {c : Char} {cs w : List Char} {ws ws' : List (List Char)}

theorem words_cons_of_isBlank (hc : isBlank c = true) (cs : List Char) :
    words (c :: cs) = words cs := by
  rw [words, words, List.splitOnP_cons_eq_if_modifyHead, if_pos hc]
  rfl

theorem words_append (hne : w ≠ []) (hw : ∀ c ∈ w, isBlank c = false)
    (hend : ∀ c ∈ cs.head?, isBlank c = true) : words (w ++ cs) = w :: words cs := by
  have hkept : (!w.isEmpty) = true := by simpa using hne
  cases cs with
  | nil =>
      rw [List.append_nil, words, List.splitOnP_eq_singleton hw, List.filter_cons,
        if_pos hkept]
      rfl
  | cons c cs =>
      have hc := hend c rfl
      rw [words_cons_of_isBlank hc, words, List.splitOnP_append_cons w cs hc,
        List.splitOnP_eq_singleton hw, List.singleton_append, List.filter_cons, if_pos hkept, words]

theorem HasWords.words_eq (h : HasWords cs ws) : words cs = ws := by
  induction h with
  | nil => rfl
  | blank hc _ ih => rw [words_cons_of_isBlank hc, ih]
  | word hne hw hend _ ih => rw [words_append hne hw hend, ih]

theorem exists_hasWords (cs : List Char) : ∃ ws, HasWords cs ws := by
  induction cs with
  | nil => exact ⟨[], .nil⟩
  | cons c cs ih =>
      obtain ⟨ws, h⟩ := ih
      rcases Bool.eq_false_or_eq_true (isBlank c) with hc | hc
      · exact ⟨ws, .blank hc h⟩
      · have hsingle : ∀ d ∈ [c], isBlank d = false := List.forall_mem_singleton.2 hc
        -- The character begins the first word of the rest, or is a word of its own before a blank.
        cases h with
        | nil => exact ⟨[[c]], .word (List.cons_ne_nil _ _) hsingle nofun .nil⟩
        | blank hd h =>
            refine ⟨[c] :: ws, .word (List.cons_ne_nil _ _) hsingle ?_ (.blank hd h)⟩
            rintro _ ⟨⟩
            exact hd
        | word _ hw hend h =>
            exact ⟨_, .word (List.cons_ne_nil _ _) (List.forall_mem_cons.2 ⟨hc, hw⟩) hend h⟩

theorem words_eq_iff : words cs = ws ↔ HasWords cs ws := by
  constructor
  · rintro rfl
    obtain ⟨ws, h⟩ := exists_hasWords cs
    rwa [h.words_eq]
  · exact HasWords.words_eq

theorem HasWords.of_mem (h : HasWords cs ws) (hw : w ∈ ws) :
    w ≠ [] ∧ ∀ c ∈ w, isBlank c = false := by
  induction h with
  | nil => cases hw
  | blank _ _ ih => exact ih hw
  | word hne hblank _ _ ih =>
      rcases List.mem_cons.1 hw with rfl | hw
      · exact ⟨hne, hblank⟩
      · exact ih hw

theorem hasWords_intercalate (h : ∀ w ∈ ws, w ≠ [] ∧ ∀ c ∈ w, isBlank c = false) :
    HasWords ([' '].intercalate ws) ws := by
  induction ws with
  | nil => exact .nil
  | cons w ws ih =>
      obtain ⟨⟨hne, hw⟩, h⟩ := List.forall_mem_cons.1 h
      cases ws with
      | nil =>
          have hword : HasWords (w ++ []) [w] := .word hne hw nofun .nil
          rw [List.intercalate_singleton]
          rwa [List.append_nil] at hword
      | cons v vs =>
          rw [List.intercalate_cons_cons, List.append_assoc]
          refine .word hne hw ?_ (.blank rfl (ih h))
          rintro _ ⟨⟩
          rfl

/-! ## Small letters -/

/-- A word in small letters. -/
def lowered (w : List Char) : List Char :=
  lowerAfter [] w

/-- A space has no case, and letter case does not look past it. -/
theorem startsCased_append_space (cs rest : List Char) :
    startsCased (cs ++ ' ' :: rest) = startsCased cs := by
  induction cs with
  | nil => rfl
  | cons c cs ih =>
      unfold startsCased at ih ⊢
      rw [List.cons_append, List.dropWhile_cons, List.dropWhile_cons]
      by_cases hc : caseIgnorable.has c.toNat = true
      · rw [if_pos hc, if_pos hc]
        exact ih
      · rw [if_neg hc, if_neg hc]

theorem lowerAfter_append_space (before past cs : List Char) :
    lowerAfter (before ++ ' ' :: past) cs = lowerAfter before cs := by
  induction cs generalizing before with
  | nil => rfl
  | cons c cs ih =>
      have ih := ih (c :: before)
      rw [List.cons_append] at ih
      simp only [lowerAfter, startsCased_append_space, ih]

theorem lowerAfter_space (before cs : List Char) :
    lowerAfter before (' ' :: cs) = ' ' :: lowered cs := by
  have hspace : lowerChar ' ' = [' '] := by decide
  have hpast : lowerAfter (' ' :: before) cs = lowered cs := lowerAfter_append_space [] before cs
  rw [lowerAfter, hpast, if_neg (by decide), hspace]
  rfl

/-- What follows a space has no part in the small letters before it. -/
theorem lowerAfter_of_space (before w cs : List Char) :
    lowerAfter before (w ++ ' ' :: cs) = lowerAfter before w ++ ' ' :: lowered cs := by
  induction w generalizing before with
  | nil => exact lowerAfter_space before cs
  | cons c w ih =>
      simp only [List.cons_append, lowerAfter, startsCased_append_space, ih, List.append_assoc]

theorem lowered_intercalate (ws : List (List Char)) :
    lowered ([' '].intercalate ws) = [' '].intercalate (ws.map lowered) := by
  induction ws with
  | nil => rfl
  | cons w ws ih =>
      cases ws with
      | nil => simp
      | cons w' ws =>
          rw [List.map_cons, List.map_cons, List.intercalate_cons_cons,
            List.intercalate_cons_cons, ← List.map_cons, ← ih, List.append_assoc,
            List.append_assoc, List.singleton_append]
          exact lowerAfter_of_space [] w _

/-- But for the sigma every letter is made small by itself. -/
theorem lowerAfter_eq_flatMap (before : List Char) (h : 'Σ' ∉ w) :
    lowerAfter before w = w.flatMap lowerChar := by
  induction w generalizing before with
  | nil => rfl
  | cons c w ih =>
      rw [List.mem_cons, not_or] at h
      simp only [lowerAfter, if_neg (Ne.symm h.1), ih _ h.2, List.flatMap_cons]

theorem lowerChar_of_ascii (h : c.toNat < 128) : lowerChar c = [c.toLower] := by
  have hall : ∀ n < 128, lowerChar (Char.ofNat n) = [(Char.ofNat n).toLower] := by decide +kernel
  simpa only [Char.ofNat_toNat] using hall c.toNat h

theorem lowered_of_ascii (h : ∀ c ∈ w, c.toNat < 128) : lowered w = w.map Char.toLower := by
  have hsigma : 'Σ' ∉ w := fun hmem => absurd (h 'Σ' hmem) (by decide)
  have hchars := List.map_congr_left fun c hc => lowerChar_of_ascii (h c hc)
  rw [lowered, lowerAfter_eq_flatMap [] hsigma, List.flatMap_def, hchars, ← List.flatMap_def,
    ← List.map_eq_flatMap]

/-! ### No small letter is blank -/

theorem isBlank_caseRuns : ∀ r ∈ caseRuns, ∀ i < r.last + 1 - r.first,
    isBlank (Char.ofNat (((r.first + i : Nat) : Int) + r.distance).toNat) = false := by
  decide +kernel

theorem isBlank_of_mem_lowerChar {d : Char} (hc : isBlank c = false) (hd : d ∈ lowerChar c) :
    isBlank d = false := by
  unfold lowerChar at hd
  split at hd
  · rcases List.mem_cons.1 hd with rfl | hd
    · rfl
    · rw [List.mem_singleton.1 hd]
      rfl
  · split at hd
    next r hr =>
      have hin := List.find?_some hr
      simp only [Bool.and_eq_true, decide_eq_true_eq] at hin
      obtain ⟨⟨hfirst, hlast⟩, -⟩ := hin
      have hrun := List.mem_of_find?_eq_some hr
      have hsmall := isBlank_caseRuns r hrun (c.toNat - r.first) (by omega)
      rw [Nat.add_sub_cancel' hfirst] at hsmall
      rwa [List.mem_singleton.1 hd]
    next => rwa [List.mem_singleton.1 hd]

theorem isBlank_of_mem_lowerAfter {before : List Char} {d : Char}
    (hw : ∀ c ∈ w, isBlank c = false) (hd : d ∈ lowerAfter before w) : isBlank d = false := by
  induction w generalizing before with
  | nil => cases hd
  | cons c w ih =>
      obtain ⟨hc, hw⟩ := List.forall_mem_cons.1 hw
      rw [lowerAfter] at hd
      rcases List.mem_append.1 hd with hd | hd
      · split at hd
        · rw [List.mem_singleton.1 hd]
          split <;> decide
        · exact isBlank_of_mem_lowerChar hc hd
      · exact ih hw hd

theorem lowerChar_ne_nil (c : Char) : lowerChar c ≠ [] := by
  unfold lowerChar
  split
  · exact List.cons_ne_nil _ _
  · split <;> exact List.cons_ne_nil _ _

theorem lowered_ne_nil (hw : w ≠ []) : lowered w ≠ [] := by
  cases w with
  | nil => exact absurd rfl hw
  | cons c w =>
      rw [lowered, lowerAfter]
      refine List.append_ne_nil_of_left_ne_nil ?_ _
      split
      · exact List.cons_ne_nil _ _
      · exact lowerChar_ne_nil c

theorem HasWords.lowered (h : HasWords cs ws) :
    HasWords (Text.lowered ([' '].intercalate ws)) (ws.map Text.lowered) := by
  rw [lowered_intercalate]
  refine hasWords_intercalate (List.forall_mem_map.2 fun w hw => ?_)
  obtain ⟨hne, hblank⟩ := h.of_mem hw
  exact ⟨lowered_ne_nil hne, fun _ hd => isBlank_of_mem_lowerAfter hblank hd⟩

end Text

/-! ## Readings -/

/-- The texts have the same words, letter case aside. -/
def SameWords (a b : String) : Prop :=
  ∃ ws ws', Text.HasWords a.toList ws ∧ Text.HasWords b.toList ws' ∧
    ws.map Text.lowered = ws'.map Text.lowered

theorem toList_normalized {text : String} {ws : List (List Char)}
    (h : Text.HasWords text.toList ws) :
    (normalized text).toList = Text.lowered ([' '].intercalate ws) := by
  have hjoined : (" ".intercalate (ws.map String.ofList)).toList = [' '].intercalate ws := by
    rw [String.toList_intercalate, List.map_map]
    simp
  rw [normalized, Text.words_eq_iff.2 h, Text.lower, String.toList_ofList, hjoined]
  rfl

/-- The words of a normalised text are those of the text, in small letters. -/
theorem hasWords_normalized {text : String} {ws : List (List Char)}
    (h : Text.HasWords text.toList ws) :
    Text.HasWords (normalized text).toList (ws.map Text.lowered) := by
  rw [toList_normalized h]
  exact h.lowered

theorem normalized_eq_iff {a b : String} : normalized a = normalized b ↔ SameWords a b := by
  constructor
  · intro h
    obtain ⟨ws, ha⟩ := Text.exists_hasWords a.toList
    obtain ⟨ws', hb⟩ := Text.exists_hasWords b.toList
    have hwords := Text.words_eq_iff.2 (hasWords_normalized ha)
    rw [h, Text.words_eq_iff.2 (hasWords_normalized hb)] at hwords
    exact ⟨ws, ws', ha, hb, hwords.symm⟩
  · rintro ⟨ws, ws', ha, hb, hlowered⟩
    rw [← String.toList_inj, toList_normalized ha, toList_normalized hb, Text.lowered_intercalate,
      Text.lowered_intercalate, hlowered]

-- A sigma that ends a word has its own small letter, and a blank after it does not count.
example : normalized " ΟΔΟΣ\tTO " = "οδος to" := by decide +kernel

end Mandate
