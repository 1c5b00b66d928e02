import Mandate.Proofs.Frame.Matched
import Mandate.Proofs.Ontology.Tokens

/-!
# What a description depends on

A known token stands for the symbol that the ontology has under it, even where a table has several
(`lookup?_of_mem_matched`). So the matched tokens of a frame settle how it is described, whatever
else stands in the raw frame (`describe_eq_of_tokens_eq`).
-/

namespace Mandate

variable {F : Type} {o : Ontology} {cs : List Char} {s : Symbol}

namespace Ontology

theorem lookup?_of_known_mem_tokensAfter {skip : Nat} (h : .known s ∈ o.tokensAfter skip cs) :
    o.lookup? s.token = some s := by
  fun_induction tokensAfter o skip cs with
  | case1 => cases h
  | case2 _ _ _ ih => exact ih h
  | case3 c cs t n hhit ih =>
      rcases List.mem_cons.1 h with h | h
      · obtain rfl := Token.known.inj h
        exact lookup?_of_hit? hhit
      · exact ih h
  | case4 c cs _ ih =>
      rcases List.mem_cons.1 h with h | h
      · cases h
      · exact ih h

/-- A matched symbol is the one that the table has under its token. -/
theorem lookup?_of_mem_matched {raw : String} (h : s ∈ o.matched raw) :
    o.lookup? s.token = some s := by
  obtain ⟨t, ht, hs⟩ := List.mem_filterMap.1 h
  cases t with
  | known =>
      obtain rfl := Option.some.inj hs
      exact lookup?_of_known_mem_tokensAfter ht
  | unknown => cases hs

theorem mem_of_mem_matched {raw : String} (h : s ∈ o.matched raw) : s ∈ o.symbols :=
  mem_of_lookup? (lookup?_of_mem_matched h)

theorem matched_eq_of_map_token_eq {raw raw' : String}
    (h : (o.matched raw).map (·.token) = (o.matched raw').map (·.token)) :
    o.matched raw = o.matched raw' := by
  have hlookup (raw : String) :
      (o.matched raw).map some = ((o.matched raw).map (·.token)).map o.lookup? := by
    rw [List.map_map]
    exact List.map_congr_left fun s hs => (lookup?_of_mem_matched hs).symm
  have hsome := (hlookup raw).trans ((congrArg _ h).trans (hlookup raw').symm)
  exact (List.map_inj_right fun _ _ => Option.some.inj).1 hsome

end Ontology

/-- A text reads as a frame with the tokens that are matched in it, if there are any. -/
theorem Frame.exists_parse?_of_tokens [Scalar F] {raw : String} {tokens : List String}
    (h : (o.matched raw).map (·.token) = tokens) (hne : tokens ≠ []) :
    ∃ f : Frame F, parse? o raw = some f ∧ f.tokens = tokens := by
  have hmatched : o.matched raw ≠ [] := by
    intro hnil
    rw [hnil, List.map_nil] at h
    exact hne h.symm
  obtain ⟨f, hf⟩ := exists_parse?_eq_some (F := F) hmatched
  exact ⟨f, hf, by rw [Frame.tokens, symbols_of_parse? hf, h]⟩

theorem Frame.symbols_eq_of_tokens_eq [Scalar F] {raw raw' : String} {f f' : Frame F}
    (h : parse? o raw = some f) (h' : parse? o raw' = some f') (heq : f.tokens = f'.tokens) :
    f.symbols = f'.symbols := by
  rw [tokens, tokens, symbols_of_parse? h, symbols_of_parse? h'] at heq
  rw [symbols_of_parse? h, symbols_of_parse? h', Ontology.matched_eq_of_map_token_eq heq]

/-- Only the matched symbols of a frame are described. -/
theorem Frame.describe_ofParts [Scalar F] (raw raw' : String) (symbols : List Symbol)
    (unknown unknown' : List Char) :
    (ofParts raw symbols unknown : Frame F).describe =
      (ofParts raw' symbols unknown' : Frame F).describe :=
  rfl

/-- Frames with the same matched tokens are described alike. -/
theorem Frame.describe_eq_of_tokens_eq [Scalar F] {raw raw' : String} {f f' : Frame F}
    (h : parse? o raw = some f) (h' : parse? o raw' = some f') (heq : f.tokens = f'.tokens) :
    f.describe = f'.describe := by
  obtain ⟨-, rfl⟩ := parse?_eq_some_iff.1 h
  obtain ⟨-, rfl⟩ := parse?_eq_some_iff.1 h'
  have hsymbols : o.matched raw = o.matched raw' := Ontology.matched_eq_of_map_token_eq heq
  simp only [Ontology.matched] at hsymbols
  rw [hsymbols]
  exact describe_ofParts ..

end Mandate
