import Mandate.Ontology

/-!
# The index of a table

What the index of a table leads to is a symbol of the table with the token that was looked up, and
every token of the table leads to one. No token is longer than the width of the table.
-/

namespace Mandate.Ontology

variable {o : Ontology} {s : Symbol} {token : String} {place : Nat}

theorem get?_places (o : Ontology) (token : String) :
    o.places.get? token =
      (o.symbols.zipIdx.map fun s => (s.1.token, s.2)).reverse.lookup token := by
  rw [o.places_eq, placesOf, Keyed.get?_ofList]

theorem symbol_of_get?_places (h : o.places.get? token = some place) :
    ∃ s, o.symbols[place]? = some s ∧ s.token = token := by
  rw [get?_places] at h
  obtain ⟨before, after, heq, -⟩ := List.lookup_eq_some_iff.1 h
  have hmem := List.mem_reverse.1 (heq ▸ List.mem_append_right before List.mem_cons_self)
  obtain ⟨⟨s, i⟩, hs, hpair⟩ := List.mem_map.1 hmem
  obtain ⟨rfl, rfl⟩ := Prod.mk.inj hpair
  exact ⟨s, List.mem_zipIdx_iff_getElem?.1 hs, rfl⟩

theorem exists_get?_places (h : s ∈ o.symbols) : ∃ place, o.places.get? s.token = some place := by
  obtain ⟨place, hplace⟩ := List.mem_iff_getElem?.1 h
  rw [get?_places, ← Option.ne_none_iff_exists', ne_eq, List.lookup_eq_none_iff]
  intro hnone
  have hmem : (s, place) ∈ o.symbols.zipIdx := List.mem_zipIdx_iff_getElem?.2 hplace
  simpa using hnone _ (List.mem_reverse.2 (List.mem_map_of_mem hmem))

/-! ## Looking up a token -/

theorem mem_of_lookup? (h : o.lookup? token = some s) : s ∈ o.symbols := by
  obtain ⟨place, -, hs⟩ := Option.bind_eq_some_iff.1 h
  exact List.mem_of_getElem? hs

theorem token_of_lookup? (h : o.lookup? token = some s) : s.token = token := by
  obtain ⟨place, hplace, hs⟩ := Option.bind_eq_some_iff.1 h
  obtain ⟨t, ht, htoken⟩ := symbol_of_get?_places hplace
  obtain rfl := Option.some.inj (hs.symm.trans ht)
  exact htoken

theorem exists_lookup? (h : s ∈ o.symbols) : ∃ t, o.lookup? s.token = some t := by
  obtain ⟨place, hplace⟩ := exists_get?_places h
  obtain ⟨t, ht, -⟩ := symbol_of_get?_places hplace
  exact ⟨t, Option.bind_eq_some_iff.2 ⟨place, hplace, ht⟩⟩

theorem lookup?_eq_none_iff : o.lookup? token = none ↔ ∀ s ∈ o.symbols, s.token ≠ token := by
  constructor
  · rintro h s hs rfl
    obtain ⟨t, ht⟩ := exists_lookup? hs
    cases h.symm.trans ht
  · intro h
    rw [Option.eq_none_iff_forall_ne_some]
    exact fun s hs => h s (mem_of_lookup? hs) (token_of_lookup? hs)

/-! ## The width of a table -/

theorem length_le_width (h : s ∈ o.symbols) : s.token.toList.length ≤ o.width := by
  rw [o.width_eq, widthOf]
  exact List.le_max?_getD_of_mem (List.mem_map_of_mem h)

end Mandate.Ontology
