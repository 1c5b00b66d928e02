import Mandate.Ontology.Standard
import Mathlib.Data.List.Pairwise
import Mathlib.Data.Option.Basic

/-!
# Accepted ontologies

A table of symbols is accepted when it has no fault and no required symbol is missing, so the
symbols that the rules of the library speak of are always there: `IsAccepted.exists_required`. A
table without fault is one of which no two symbols clash: `firstFault?_eq_none_iff`.
-/

namespace Mandate.Ontology

variable {o : Ontology}

/-- Some symbols were accepted as this table. -/
def IsAccepted (o : Ontology) : Prop :=
  ∃ symbols, ofSymbols symbols = .ok o

theorem ofSymbols_eq_ok_iff {symbols : List Symbol} :
    ofSymbols symbols = .ok o ↔
      symbols ≠ [] ∧ firstFault? [] (symbols.map Symbol.stripped) = none ∧
        missing? (symbols.map Symbol.stripped) = none ∧
          o = index (symbols.map Symbol.stripped) := by
  cases symbols with
  | nil => simp [ofSymbols]
  | cons s symbols =>
      rw [ofSymbols]
      generalize (s :: symbols).map Symbol.stripped = table
      cases hfault : firstFault? [] table with
      | some e => simp [hfault]
      | none => cases hmissing : missing? table <;> simp [hfault, hmissing, eq_comm]

theorem named_of_find? {category : Category} {name : String} {s : Symbol}
    (h : o.find? category name = some s) : s.category = category ∧ s.name = name := by
  rw [find?, List.find?_eq_some_iff_append] at h
  simpa [Symbol.isNamed] using h.1

theorem IsAccepted.exists_required (h : o.IsAccepted) {r : Category × String}
    (hr : r ∈ required) : ∃ s, o.find? r.1 r.2 = some s := by
  obtain ⟨symbols, h⟩ := h
  obtain ⟨_, _, hmissing, rfl⟩ := ofSymbols_eq_ok_iff.1 h
  simp only [missing?, Option.map_eq_none_iff, List.find?_eq_none] at hmissing
  have hany : ∃ s ∈ symbols.map Symbol.stripped, s.isNamed r.1 r.2 = true := by
    simpa only [Bool.not_eq_true', Bool.not_eq_false, List.any_eq_true] using hmissing r hr
  exact Option.isSome_iff_exists.1 (List.find?_isSome.2 hany)

/-! ## Symbols that clash -/

/-- The two symbols have no place in one table: they share their token, their name within a
category, or their strength as modes. -/
def Clash (s t : Symbol) : Prop :=
  s.token = t.token ∨ (s.category = t.category ∧ s.name = t.name) ∨
    ∃ strength, s.kind = .mode strength ∧ t.kind = .mode strength

theorem Clash.symm {s t : Symbol} (h : Clash s t) : Clash t s := by
  rcases h with htoken | ⟨hcategory, hname⟩ | ⟨strength, hs, ht⟩
  · exact Or.inl htoken.symm
  · exact Or.inr (Or.inl ⟨hcategory.symm, hname.symm⟩)
  · exact Or.inr (Or.inr ⟨strength, ht, hs⟩)

instance : Std.Symm fun s t => ¬ Clash s t := ⟨fun _ _ h h' => h h'.symm⟩

theorem rival?_eq_none_iff {earlier : List Symbol} {s : Symbol} :
    rival? earlier s = none ↔
      ∀ t ∈ earlier, ¬ ∃ strength, t.kind = .mode strength ∧ s.kind = .mode strength := by
  unfold rival?
  cases s.kind <;> simp

theorem fault?_eq_none_iff {earlier : List Symbol} {s : Symbol} :
    fault? earlier s = none ↔ s.token ≠ "" ∧ ∀ t ∈ earlier, ¬ Clash t s := by
  simp only [fault?, List.any_eq_true, decide_eq_true_eq, Symbol.isNamed, Bool.and_eq_true]
  split
  next hempty => simp [hempty]
  next hempty =>
    split
    next htoken =>
      obtain ⟨t, ht, heq⟩ := htoken
      exact iff_of_false nofun fun h => h.2 t ht (Or.inl heq)
    next htoken =>
      split
      next hname =>
        obtain ⟨t, ht, heq⟩ := hname
        exact iff_of_false nofun fun h => h.2 t ht (Or.inr (Or.inl heq))
      next hname =>
        rw [Option.map_eq_none_iff, rival?_eq_none_iff]
        constructor
        · intro hmode
          refine ⟨hempty, fun t ht => ?_⟩
          rintro (heq | heq | heq)
          · exact htoken ⟨t, ht, heq⟩
          · exact hname ⟨t, ht, heq⟩
          · exact hmode t ht heq
        · rintro ⟨_, hclash⟩ t ht heq
          exact hclash t ht (Or.inr (Or.inr heq))

theorem firstFault?_eq_none_iff {earlier later : List Symbol} :
    firstFault? earlier later = none ↔
      (∀ s ∈ later, s.token ≠ "") ∧ (∀ s ∈ later, ∀ t ∈ earlier, ¬ Clash t s) ∧
        later.Pairwise fun t s => ¬ Clash t s := by
  induction later generalizing earlier with
  | nil => simp [firstFault?]
  | cons s later ih =>
      simp only [firstFault?, Option.orElse_eq_none, fault?_eq_none_iff, ih, List.forall_mem_cons,
        List.pairwise_cons, List.mem_append, List.mem_singleton, or_imp, forall_and, forall_eq]
      constructor
      · rintro ⟨⟨hs, hearlier⟩, hlater, ⟨hnew, hself⟩, hpairs⟩
        exact ⟨⟨hs, hlater⟩, ⟨hearlier, hnew⟩, hself, hpairs⟩
      · rintro ⟨⟨hs, hlater⟩, ⟨hearlier, hnew⟩, hself, hpairs⟩
        exact ⟨⟨hs, hearlier⟩, hlater, ⟨hnew, hself⟩, hpairs⟩

variable {s t : Symbol}

theorem IsAccepted.token_ne (h : o.IsAccepted) (hs : s ∈ o.symbols) : s.token ≠ "" := by
  obtain ⟨symbols, h⟩ := h
  obtain ⟨_, hfault, _, rfl⟩ := ofSymbols_eq_ok_iff.1 h
  exact (firstFault?_eq_none_iff.1 hfault).1 s hs

theorem IsAccepted.eq_of_clash (h : o.IsAccepted) (hs : s ∈ o.symbols) (ht : t ∈ o.symbols)
    (hclash : Clash s t) : s = t := by
  obtain ⟨symbols, h⟩ := h
  obtain ⟨_, hfault, _, rfl⟩ := ofSymbols_eq_ok_iff.1 h
  by_contra hne
  exact (firstFault?_eq_none_iff.1 hfault).2.2.forall hs ht hne hclash

theorem IsAccepted.eq_of_token_eq (h : o.IsAccepted) (hs : s ∈ o.symbols) (ht : t ∈ o.symbols)
    (htoken : s.token = t.token) : s = t :=
  h.eq_of_clash hs ht (Or.inl htoken)

theorem IsAccepted.eq_of_name_eq (h : o.IsAccepted) (hs : s ∈ o.symbols) (ht : t ∈ o.symbols)
    (hcategory : s.category = t.category) (hname : s.name = t.name) : s = t :=
  h.eq_of_clash hs ht (Or.inr (Or.inl ⟨hcategory, hname⟩))

theorem significant_append (a b : String) :
    significant (a ++ b) = significant a ++ significant b := by
  simp [significant]

theorem significant_ofList_significant (text : String) :
    significant (String.ofList (significant text)) = significant text := by
  simp [significant, List.filter_filter]

theorem IsAccepted.significant_token (h : o.IsAccepted) (hs : s ∈ o.symbols) :
    significant s.token = s.token.toList := by
  obtain ⟨symbols, h⟩ := h
  obtain ⟨_, _, _, rfl⟩ := ofSymbols_eq_ok_iff.1 h
  obtain ⟨t, _, rfl⟩ := List.mem_map.1 hs
  rw [Symbol.stripped, significant_ofList_significant, String.toList_ofList]

theorem isAccepted_standard : standard.IsAccepted := by
  refine ⟨standardSymbols, ofSymbols_eq_ok_iff.2 ⟨nofun, ?_, ?_, ?_⟩⟩ <;> decide +kernel

end Mandate.Ontology
