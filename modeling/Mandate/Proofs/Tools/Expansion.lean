import Mandate.Glob

/-!
# What a pattern stands for

The names of a pattern are the texts that it turns into when each of its stars is replaced by a text
of its own. The matcher decides just this (`isMatch_iff_expands`), though it tries no place for a
segment but the first: whatever another place leaves of the name is an end of what the first place
leaves, and the star behind the segment takes up the difference (`expands_scattered_append`).
-/

namespace Mandate.Glob

/-- The text is the pattern with each star replaced by some text, perhaps an empty one. -/
inductive Expands : List Char → List Char → Prop where
  | done : Expands [] []
  | star {ps cs : List Char} (filling : List Char) :
      Expands ps cs → Expands ('*' :: ps) (filling ++ cs)
  | char {p : Char} {ps cs : List Char} : p ≠ '*' → Expands ps cs → Expands (p :: ps) (p :: cs)

variable {p : Char} {ps cs : List Char}

@[simp] theorem expands_nil_iff : Expands [] cs ↔ cs = [] := by
  constructor
  · rintro ⟨⟩
    rfl
  · rintro rfl
    exact .done

theorem expands_star_iff :
    Expands ('*' :: ps) cs ↔ ∃ filling used, Expands ps used ∧ cs = filling ++ used := by
  constructor
  · intro h
    cases h with
    | star filling h => exact ⟨filling, _, h, rfl⟩
    | char hp => exact absurd rfl hp
  · rintro ⟨filling, used, h, rfl⟩
    exact .star filling h

theorem expands_char_iff (hp : p ≠ '*') :
    Expands (p :: ps) cs ↔ ∃ used, Expands ps used ∧ cs = p :: used := by
  constructor
  · intro h
    cases h with
    | star => exact absurd rfl hp
    | char _ h => exact ⟨_, h, rfl⟩
  · rintro ⟨used, h, rfl⟩
    exact .char hp h

/-! ## Patterns one after the other -/

theorem expands_append_iff {qs : List Char} :
    Expands (ps ++ qs) cs ↔ ∃ a b, Expands ps a ∧ Expands qs b ∧ cs = a ++ b := by
  induction ps generalizing cs with
  | nil => simp
  | cons p ps ih =>
      by_cases hp : p = '*'
      · subst hp
        simp only [List.cons_append, expands_star_iff, ih]
        constructor
        · rintro ⟨filling, _, ⟨a, b, ha, hb, rfl⟩, rfl⟩
          exact ⟨filling ++ a, b, ⟨filling, a, ha, rfl⟩, hb, (List.append_assoc ..).symm⟩
        · rintro ⟨_, b, ⟨filling, a, ha, rfl⟩, hb, rfl⟩
          exact ⟨filling, a ++ b, ⟨a, b, ha, hb, rfl⟩, List.append_assoc ..⟩
      · simp only [List.cons_append, expands_char_iff hp, ih]
        constructor
        · rintro ⟨_, ⟨a, b, ha, hb, rfl⟩, rfl⟩
          exact ⟨p :: a, b, ⟨a, ha, rfl⟩, hb, rfl⟩
        · rintro ⟨_, b, ⟨a, ha, rfl⟩, hb, rfl⟩
          exact ⟨a ++ b, ⟨a, b, ha, hb, rfl⟩, rfl⟩

theorem expands_word_iff (hps : '*' ∉ ps) : Expands ps cs ↔ cs = ps := by
  induction ps generalizing cs with
  | nil => exact expands_nil_iff
  | cons p ps ih =>
      rw [List.mem_cons, not_or] at hps
      simp [expands_char_iff (Ne.symm hps.1), ih hps.2]

/-! ## Segments in order -/

/-- The pattern of the texts in which some segments stand in order. -/
def scattered : List (List Char) → List Char
  | [] => ['*']
  | segment :: segments => '*' :: (segment ++ scattered segments)

variable {segment : List Char} {segments : List (List Char)}

theorem expands_scattered_cons_iff (hsegment : '*' ∉ segment) :
    Expands (scattered (segment :: segments)) cs ↔
      ∃ filling rest, cs = filling ++ segment ++ rest ∧ Expands (scattered segments) rest := by
  simp only [scattered, expands_star_iff, expands_append_iff, expands_word_iff hsegment]
  constructor
  · rintro ⟨filling, _, ⟨_, rest, rfl, hrest, rfl⟩, rfl⟩
    exact ⟨filling, rest, (List.append_assoc ..).symm, hrest⟩
  · rintro ⟨filling, rest, rfl, hrest⟩
    exact ⟨filling, _, ⟨segment, rest, rfl, hrest, rfl⟩, List.append_assoc ..⟩

/-- The first star takes up whatever is put in front of a text. -/
theorem expands_scattered_append (h : Expands (scattered segments) cs) (front : List Char) :
    Expands (scattered segments) (front ++ cs) := by
  cases segments <;>
  · obtain ⟨filling, used, hused, rfl⟩ := expands_star_iff.1 h
    exact expands_star_iff.2 ⟨front ++ filling, used, hused, (List.append_assoc ..).symm⟩

theorem prefix_drop_of_position? {place : Nat} (h : position? segment cs = some place) :
    segment <+: cs.drop place := by
  induction cs generalizing place with
  | nil =>
      obtain ⟨hempty, -⟩ := Option.ite_none_right_eq_some.1 h
      simp [List.isEmpty_iff.1 hempty]
  | cons c cs ih =>
      rw [position?] at h
      split at h
      next hbegins =>
        obtain rfl := Option.some.inj h
        exact List.isPrefixOf_iff_prefix.1 hbegins
      next =>
        obtain ⟨place, hplace, rfl⟩ := Option.map_eq_some_iff.1 h
        exact ih hplace

/-- A segment that stands somewhere in a text has a first place there, no later than that one. -/
theorem exists_position? (segment front rest : List Char) :
    ∃ place ≤ front.length, position? segment (front ++ segment ++ rest) = some place := by
  induction front with
  | nil =>
      refine ⟨0, Nat.le_refl _, ?_⟩
      cases segment <;> cases rest <;> simp [position?]
  | cons c front ih =>
      obtain ⟨place, hle, hplace⟩ := ih
      rw [List.cons_append, List.cons_append, position?]
      split
      next => exact ⟨0, Nat.zero_le _, rfl⟩
      next => exact ⟨place + 1, Nat.succ_le_succ hle, by rw [hplace, Option.map_some]⟩

/-- To try the first place of each segment is enough. -/
theorem findsInOrder_iff_expands (hsegments : ∀ s ∈ segments, '*' ∉ s) :
    findsInOrder segments cs = true ↔ Expands (scattered segments) cs := by
  induction segments generalizing cs with
  | nil => exact iff_of_true rfl (expands_star_iff.2 ⟨cs, [], .done, (List.append_nil _).symm⟩)
  | cons segment segments ih =>
      rw [List.forall_mem_cons] at hsegments
      rw [expands_scattered_cons_iff hsegments.1]
      constructor
      · intro h
        rw [findsInOrder] at h
        split at h
        next place hplace =>
          obtain ⟨rest, hrest⟩ := prefix_drop_of_position? hplace
          refine ⟨cs.take place, rest, ?_, ?_⟩
          · rw [List.append_assoc, hrest, List.take_append_drop]
          · rwa [← List.drop_drop, ← hrest, List.drop_left, ih hsegments.2] at h
        next => cases h
      · rintro ⟨filling, rest, rfl, hrest⟩
        obtain ⟨place, hle, hplace⟩ := exists_position? segment filling rest
        have hdrop : place + segment.length ≤ (filling ++ segment).length := by
          rw [List.length_append]
          exact Nat.add_le_add_right hle _
        rw [findsInOrder, hplace, ih hsegments.2, List.drop_append_of_le_length hdrop]
        exact expands_scattered_append hrest _

/-! ## The segments of a pattern -/

theorem not_mem_of_mem_splitOn (h : segment ∈ ps.splitOn p) : p ∉ segment := by
  induction ps generalizing segment with
  | nil =>
      obtain rfl := List.mem_singleton.1 h
      exact List.not_mem_nil
  | cons q ps ih =>
      rw [List.splitOn_cons_eq_if_modifyHead] at h
      split at h
      next =>
        rcases List.mem_cons.1 h with rfl | h
        · exact List.not_mem_nil
        · exact ih h
      next hq =>
        cases hsplit : ps.splitOn p with
        | nil => exact absurd hsplit (List.splitOn_ne_nil p ps)
        | cons first others =>
            rw [hsplit] at h ih
            rcases List.mem_cons.1 h with rfl | h
            · refine List.not_mem_cons_of_ne_of_not_mem (fun heq => hq ?_) (ih List.mem_cons_self)
              exact beq_iff_eq.2 heq.symm
            · exact ih (List.mem_cons_of_mem _ h)

theorem exists_splitOn_eq (h : p ∈ ps) :
    ∃ first middle last, ps.splitOn p = first :: (middle ++ [last]) := by
  cases hsplit : ps.splitOn p with
  | nil => exact absurd hsplit (List.splitOn_ne_nil p ps)
  | cons first others =>
      rcases others.eq_nil_or_concat with rfl | ⟨middle, last, rfl⟩
      · have hjoined : [p].intercalate (ps.splitOn p) = ps := List.intercalate_splitOn p
        rw [hsplit, List.intercalate_singleton] at hjoined
        have hfirst : p ∉ first := not_mem_of_mem_splitOn (hsplit ▸ List.mem_singleton_self _)
        exact absurd (hjoined ▸ h) hfirst
      · exact ⟨first, middle, last, by rw [List.concat_eq_append]⟩

theorem intercalate_eq_scattered (first last : List Char) (middle : List (List Char)) :
    ['*'].intercalate (first :: (middle ++ [last])) = first ++ scattered middle ++ last := by
  induction middle generalizing first with
  | nil => simp [scattered]
  | cons segment middle ih => simp [scattered, ih]

theorem hasSegments_iff (first last : List Char) (middle : List (List Char)) :
    hasSegments first middle last cs = true ↔
      ∃ inner, cs = first ++ inner ++ last ∧ findsInOrder middle inner = true := by
  unfold hasSegments
  constructor
  · intro h
    split at h
    next => cases h
    next hbegins =>
      obtain ⟨behind, rfl⟩ : first <+: cs := by simpa using hbegins
      simp only [List.drop_left] at h
      split at h
      next => cases h
      next hends =>
        obtain ⟨-, inner, rfl⟩ : last.length ≤ behind.length ∧ last <:+ behind := by
          simpa using hends
        exact ⟨inner, (List.append_assoc ..).symm, by simpa using h⟩
  · rintro ⟨inner, rfl, h⟩
    simp [h]

theorem accepts_iff_expands : accepts ps cs = true ↔ Expands ps cs := by
  unfold accepts
  split
  next hall =>
    subst hall
    exact iff_of_true rfl (expands_star_iff.2 ⟨cs, [], .done, (List.append_nil _).symm⟩)
  next =>
    split
    next hnone =>
      have hplain : '*' ∉ ps := by simpa using hnone
      rw [expands_word_iff hplain, decide_eq_true_iff, eq_comm]
    next hstar =>
      have hstar : '*' ∈ ps := by simpa using hstar
      obtain ⟨first, middle, last, hsplit⟩ := exists_splitOn_eq hstar
      have hplain : ∀ s ∈ first :: (middle ++ [last]), '*' ∉ s :=
        fun s hs => not_mem_of_mem_splitOn (hsplit ▸ hs)
      simp only [List.forall_mem_cons, List.forall_mem_append] at hplain
      obtain ⟨hfirst, hmiddle, hlast, -⟩ := hplain
      have hjoined : ['*'].intercalate (ps.splitOn '*') = ps := List.intercalate_splitOn '*'
      rw [hsplit, intercalate_eq_scattered] at hjoined
      simp only [hsplit, List.getLast?_concat, List.dropLast_concat, hasSegments_iff]
      simp only [← hjoined, expands_append_iff, expands_word_iff hfirst, expands_word_iff hlast,
        findsInOrder_iff_expands hmiddle]
      constructor
      · rintro ⟨inner, rfl, hinner⟩
        exact ⟨_, _, ⟨_, _, rfl, hinner, rfl⟩, rfl, rfl⟩
      · rintro ⟨_, _, ⟨_, inner, rfl, hinner, rfl⟩, rfl, rfl⟩
        exact ⟨inner, rfl, hinner⟩

/-- A name matches a pattern exactly if the pattern turns into the name when each star is replaced
by some text. -/
theorem isMatch_iff_expands (pattern name : String) :
    isMatch pattern name = true ↔ Expands pattern.toList name.toList :=
  accepts_iff_expands

/-- The piece between two stars has to lie apart from the beginning and the end of the name. -/
example :
    isMatch "db_*_write" "db_user_write" = true ∧ isMatch "db_*_write" "db_write" = false := by
  decide

end Mandate.Glob
