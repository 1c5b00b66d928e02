import Mandate.Binary64
import Mandate.Proofs.Frame.Matched
import Mandate.Proofs.Ontology.Noise

/-!
# Frames in noise

Noise in a frame is cut off by itself, so a frame with noise around it is still the same frame: only
its confidence and what was not recognized can change (`tokenize_noise`).
-/

namespace Mandate

variable {F : Type} {o : Ontology}

theorem Ontology.matched_surrounded (ho : o.IsAccepted) {before after : String}
    (hbefore : ∀ c ∈ before.toList, o.IsForeign c) (hafter : ∀ c ∈ after.toList, o.IsForeign c)
    (raw : String) : o.matched (before ++ raw ++ after) = o.matched raw := by
  have hunknown (cs : List Char) :
      (cs.map Token.unknown).filterMap Token.symbol? = [] := by
    simp [List.filterMap_eq_nil_iff, Token.symbol?]
  simp [matched, tokenize_surrounded ho hbefore hafter, List.filterMap_append, hunknown]

/-- A significant character that occurs in no token is read by itself, and what stands on either
side of it as if it stood alone. An ignorable character makes no difference. So a frame that reads
has the same symbols, slots and identity with any text of such characters around it. -/
theorem Frame.tokenize_noise [Scalar F] (o : Ontology) (ho : o.IsAccepted) :
    (∀ (a b : String) (c : Char), isIgnorable c = false → o.IsForeign c →
      o.tokenize (a.push c ++ b) = o.tokenize a ++ .unknown c :: o.tokenize b) ∧
    (∀ (a b : String) (c : Char), isIgnorable c = true →
      o.tokenize (a.push c ++ b) = o.tokenize (a ++ b)) ∧
    ∀ (before raw after : String) (f : Frame F),
      (∀ c ∈ before.toList ++ after.toList, isIgnorable c = true ∨ o.IsForeign c) →
      parse? o raw = some f →
      ∃ g, parse? o (before ++ raw ++ after) = some g ∧ g.SameReading f := by
  refine ⟨fun a b c hsignificant hc => ?_, fun a b c hc => ?_, fun before raw after f hnoise hf => ?_⟩
  · exact o.tokenize_push_append_of_isForeign ho hc hsignificant a b
  · exact o.tokenize_push_append_of_isIgnorable hc a b
  · have hforeign : ∀ c ∈ before.toList ++ after.toList, o.IsForeign c := by
      intro c hc
      rcases hnoise c hc with hignorable | hforeign
      · exact Ontology.isForeign_of_isIgnorable ho hignorable
      · exact hforeign
    obtain ⟨hbefore, hafter⟩ := List.forall_mem_append.1 hforeign
    exact exists_sameReading hf (Ontology.matched_surrounded ho hbefore hafter raw)

/-- Noise ends a token that goes on behind it, a blank does not, and neither of them changes what a
frame between quotes is. -/
theorem Frame.tokenize_noise_nested :
    let o := Ontology.nested
    (o.IsAccepted ∧ isIgnorable '?' = false ∧ o.IsForeign '?' ∧ isIgnorable ' ' = true ∧
      ∀ c ∈ "« ".toList ++ "\u200d ?»".toList, isIgnorable c = true ∨ o.IsForeign c) ∧
    o.tokenize ("ab".push '?' ++ "cab") = o.tokenize "ab" ++ .unknown '?' :: o.tokenize "cab" ∧
    o.tokenize ("ab".push ' ' ++ "c") = o.tokenize ("ab" ++ "c") ∧
    ∃ f g : Frame Float, parse? o "⊕abc" = some f ∧
      parse? o ("« " ++ "⊕abc" ++ "\u200d ?»") = some g ∧ g.SameReading f := by
  intro o
  have noise : ∀ c ∈ "« ".toList ++ "\u200d ?»".toList, isIgnorable c = true ∨ o.IsForeign c := by
    have hall : ("« ".toList ++ "\u200d ?»".toList).all
        (fun c => decide (isIgnorable c = true ∨ o.IsForeign c)) = true := by decide +kernel
    exact fun c hc => of_decide_eq_true (List.all_eq_true.1 hall c hc)
  have reads : parse? (F := Float) o "⊕abc" ≠ none := mt parse?_eq_none_iff.1 (by decide +kernel)
  obtain ⟨f, hf⟩ := Option.ne_none_iff_exists'.1 reads
  obtain ⟨hforeign, hignorable, hframe⟩ :=
    tokenize_noise (F := Float) o Ontology.isAccepted_nested
  obtain ⟨g, hg, hsame⟩ := hframe "« " "⊕abc" "\u200d ?»" f noise hf
  exact ⟨⟨Ontology.isAccepted_nested, by decide, by decide +kernel, by decide, noise⟩,
    hforeign "ab" "cab" '?' (by decide) (by decide +kernel), hignorable "ab" "c" ' ' (by decide),
    f, g, hf, hg, hsame⟩

end Mandate
