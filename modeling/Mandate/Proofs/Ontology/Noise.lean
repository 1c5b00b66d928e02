import Mandate.Proofs.Ontology.Tokens

/-!
# Noise in a frame

A character that occurs in no token is not read across: what stands before it and what stands behind
it are cut as if each stood alone (`tokenize_push_append_of_isForeign`). An ignorable character is
not read at all (`tokenize_push_append_of_isIgnorable`).
-/

namespace Mandate.Ontology

variable {o : Ontology} {c : Char} {w as bs cs ds : List Char} {s : Symbol} {t : Token}
  {ts us : List Token} {a b raw : String}

/-! ## Ignorable characters -/

/-- The second text is the first with ignorable characters put in anywhere. -/
inductive Spaced : List Char → List Char → Prop where
  | done : Spaced [] []
  | keep {cs ds : List Char} (c : Char) : Spaced cs ds → Spaced (c :: cs) (c :: ds)
  | put {c : Char} {cs ds : List Char} : isIgnorable c = true → Spaced cs ds → Spaced cs (c :: ds)

theorem significant_eq_of_spaced (h : Spaced cs raw.toList)
    (hcs : ∀ c ∈ cs, isIgnorable c = false) : significant raw = cs := by
  rw [significant]
  generalize raw.toList = ds at h
  induction h with
  | done => rfl
  | keep c _ ih =>
      obtain ⟨hc, hcs⟩ := List.forall_mem_cons.1 hcs
      rw [List.filter_cons_of_pos (by rw [hc]; rfl), ih hcs]
  | put hc _ ih => rw [List.filter_cons_of_neg (by simp [hc]), ih hcs]

theorem isIgnorable_of_mem_token (ho : o.IsAccepted) (hs : s ∈ o.symbols)
    (hc : c ∈ s.token.toList) : isIgnorable c = false := by
  rw [← ho.significant_token hs] at hc
  simpa using (List.mem_filter.1 hc).2

theorem significant_push_of_isIgnorable (hc : isIgnorable c = true) (a : String) :
    significant (a.push c) = significant a := by
  simp [significant, hc]

theorem significant_push (hc : isIgnorable c = false) (a : String) :
    significant (a.push c) = significant a ++ [c] := by
  simp [significant, hc]

/-! ## Foreign characters -/

/-- The character occurs in no token of the table. -/
def IsForeign (o : Ontology) (c : Char) : Prop :=
  ∀ s ∈ o.symbols, c ∉ s.token.toList

instance (o : Ontology) (c : Char) : Decidable (o.IsForeign c) :=
  inferInstanceAs (Decidable (∀ s ∈ o.symbols, _))

theorem isForeign_of_isIgnorable (ho : o.IsAccepted) (hc : isIgnorable c = true) :
    o.IsForeign c := by
  intro s hs hmem
  rw [isIgnorable_of_mem_token ho hs hmem] at hc
  cases hc

theorem begins_append_cons_iff (hc : c ∉ w) : w <+: as ++ c :: bs ↔ w <+: as := by
  constructor
  · intro h
    rcases List.prefix_or_prefix_of_prefix h (List.prefix_append as (c :: bs)) with hw | hw
    · exact hw
    · -- The word goes on behind the text before the character, so it would go on with it.
      obtain ⟨rest, rfl⟩ := hw
      cases rest with
      | nil => exact ⟨[], by simp⟩
      | cons d rest =>
          rw [List.prefix_append_right_inj] at h
          obtain ⟨rfl, -⟩ := List.cons_prefix_cons.1 h
          exact absurd (List.mem_append_right as List.mem_cons_self) hc
  · intro h
    exact h.trans (List.prefix_append as (c :: bs))

theorem isLongest_append_cons_iff (hc : o.IsForeign c) :
    o.IsLongest (as ++ c :: bs) s ↔ o.IsLongest as s := by
  constructor
  · rintro ⟨hmem, hbegins, hlongest⟩
    refine ⟨hmem, (begins_append_cons_iff (hc s hmem)).1 hbegins, fun t ht h => ?_⟩
    exact hlongest t ht ((begins_append_cons_iff (hc t ht)).2 h)
  · rintro ⟨hmem, hbegins, hlongest⟩
    refine ⟨hmem, (begins_append_cons_iff (hc s hmem)).2 hbegins, fun t ht h => ?_⟩
    exact hlongest t ht ((begins_append_cons_iff (hc t ht)).1 h)

theorem fits_append_cons_iff (hc : o.IsForeign c) :
    o.Fits (as ++ c :: bs) t ↔ o.Fits as t := by
  cases t with
  | known s => exact isLongest_append_cons_iff hc
  | unknown d =>
      exact forall₂_congr fun s hs => not_congr (begins_append_cons_iff (hc s hs))

theorem fits_cons (ho : o.IsAccepted) (hc : o.IsForeign c) (bs : List Char) :
    o.Fits (c :: bs) (.unknown c) := by
  rw [← List.nil_append (c :: bs), fits_append_cons_iff hc]
  intro s hs hbegins
  exact ho.token_ne hs (String.toList_eq_nil_iff.1 (List.prefix_nil.1 hbegins))

theorem IsCut.append_cons (ho : o.IsAccepted) (hc : o.IsForeign c) (has : o.IsCut as ts)
    (hbs : o.IsCut bs us) : o.IsCut (as ++ c :: bs) (ts ++ .unknown c :: us) := by
  induction ts generalizing as with
  | nil =>
      obtain rfl := isCut_nil_iff.1 has
      exact isCut_cons_iff.2 ⟨bs, rfl, fits_cons ho hc bs, hbs⟩
  | cons t ts ih =>
      obtain ⟨rest, rfl, hfits, hcut⟩ := isCut_cons_iff.1 has
      exact isCut_cons_iff.2 ⟨rest ++ c :: bs, List.append_assoc _ _ _,
        (fits_append_cons_iff hc).2 hfits, ih hcut⟩

/-! ## Reading around noise -/

theorem tokensAfter_append_cons (ho : o.IsAccepted) (hc : o.IsForeign c) (as bs : List Char) :
    o.tokensAfter 0 (as ++ c :: bs) =
      o.tokensAfter 0 as ++ .unknown c :: o.tokensAfter 0 bs :=
  (isCut_tokensAfter ho 0 _).unique ho
    ((isCut_tokensAfter ho 0 as).append_cons ho hc (isCut_tokensAfter ho 0 bs))

theorem tokenize_push_append_of_isForeign (ho : o.IsAccepted) (hc : o.IsForeign c)
    (hsignificant : isIgnorable c = false) (a b : String) :
    o.tokenize (a.push c ++ b) = o.tokenize a ++ .unknown c :: o.tokenize b := by
  rw [tokenize, significant_append, significant_push hsignificant, List.append_assoc]
  exact tokensAfter_append_cons ho hc _ _

theorem tokenize_push_append_of_isIgnorable (o : Ontology) (hc : isIgnorable c = true)
    (a b : String) : o.tokenize (a.push c ++ b) = o.tokenize (a ++ b) := by
  rw [tokenize, significant_append, significant_push_of_isIgnorable hc, ← significant_append]
  rfl

theorem tokensAfter_foreign_append (ho : o.IsAccepted) (hcs : ∀ c ∈ cs, o.IsForeign c)
    (bs : List Char) : o.tokensAfter 0 (cs ++ bs) = cs.map .unknown ++ o.tokensAfter 0 bs := by
  induction cs with
  | nil => rfl
  | cons c cs ih =>
      obtain ⟨hc, hcs⟩ := List.forall_mem_cons.1 hcs
      exact (tokensAfter_append_cons ho hc [] (cs ++ bs)).trans (congrArg (_ :: ·) (ih hcs))

theorem tokensAfter_append_foreign (ho : o.IsAccepted) (hcs : ∀ c ∈ cs, o.IsForeign c)
    (as : List Char) : o.tokensAfter 0 (as ++ cs) = o.tokensAfter 0 as ++ cs.map .unknown := by
  cases cs with
  | nil => simp
  | cons c cs =>
      obtain ⟨hc, hcs⟩ := List.forall_mem_cons.1 hcs
      have hbehind := tokensAfter_foreign_append ho hcs []
      rw [List.append_nil] at hbehind
      rw [tokensAfter_append_cons ho hc, hbehind]
      simp [tokensAfter]

/-- Text without a character of any token is read as so many unknown characters, before a frame and
behind it. -/
theorem tokenize_surrounded (ho : o.IsAccepted) {before after : String}
    (hbefore : ∀ c ∈ before.toList, o.IsForeign c) (hafter : ∀ c ∈ after.toList, o.IsForeign c)
    (raw : String) :
    o.tokenize (before ++ raw ++ after) =
      (significant before).map .unknown ++ o.tokenize raw ++ (significant after).map .unknown := by
  have hforeign {text : String} (h : ∀ c ∈ text.toList, o.IsForeign c) :
      ∀ c ∈ significant text, o.IsForeign c := fun c hc => h c (List.mem_filter.1 hc).1
  rw [tokenize, significant_append, significant_append,
    tokensAfter_append_foreign ho (hforeign hafter), tokensAfter_foreign_append ho (hforeign hbefore)]
  rfl

end Mandate.Ontology
