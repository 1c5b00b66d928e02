import Mandate.Proofs.Frame.Description
import Mandate.Proofs.Scalar.Logarithm
import Mathlib.Tactic.GCongr
import Mathlib.Tactic.Linarith
import Mathlib.Tactic.Positivity

/-!
# Confidence and noise

Over exact numbers the confidence in a frame is the smaller of two lines that both fall as the share
of noise rises, so it falls with each further token that was not recognized. The cap alone keeps it
from one while there is noise. The main statement is `confidence_ranks_noise`.
-/

namespace Mandate

/-! ## The share of noise -/

/-- The share of unrecognized tokens among all. -/
def noiseShare (matched unrecognized : Nat) : ℚ :=
  unrecognized / (matched + unrecognized)

section

variable {m n n' : Nat}

theorem noiseShare_nonneg (m n : Nat) : 0 ≤ noiseShare m n := by
  unfold noiseShare
  positivity

theorem noiseShare_lt_one (hm : 0 < m) (n : Nat) : noiseShare m n < 1 := by
  have hpos : (0 : ℚ) < m := Nat.cast_pos.2 hm
  rw [noiseShare, div_lt_one (by positivity)]
  linarith

theorem noiseShare_eq_zero_iff : noiseShare m n = 0 ↔ n = 0 := by
  rw [noiseShare, div_eq_zero_iff, ← Nat.cast_add, Nat.cast_eq_zero, Nat.cast_eq_zero]
  omega

theorem one_sub_noiseShare (hm : 0 < m) (n : Nat) : 1 - noiseShare m n = m / (m + n) := by
  have hpos : (0 : ℚ) < m + n := by positivity
  rw [noiseShare, eq_div_iff hpos.ne', sub_mul, div_mul_cancel₀ _ hpos.ne']
  ring

theorem noiseShare_lt_iff (hm : 0 < m) : noiseShare m n < noiseShare m n' ↔ n < n' := by
  have hpos : (0 : ℚ) < m := Nat.cast_pos.2 hm
  rw [noiseShare, noiseShare, div_lt_div_iff₀ (by positivity) (by positivity), mul_add, mul_add,
    mul_comm (n' : ℚ) n, add_lt_add_iff_right, mul_lt_mul_iff_left₀ hpos, Nat.cast_lt]

end

/-! ## Two falling lines -/

/-- The confidence at a share of noise with some slots filled. -/
def trust (noise : ℚ) (filled : Nat) : ℚ :=
  min (1 - noise + filled / 10) (1 - noise / 10)

section

variable {x y : ℚ} {k : Nat}

theorem trust_pos (h : x < 1) : 0 < trust x k := by
  have hk : (0 : ℚ) ≤ k / 10 := by positivity
  exact lt_min (by linarith) (by linarith)

theorem trust_le_one (h : 0 ≤ x) : trust x k ≤ 1 :=
  (min_le_right _ _).trans (by linarith)

theorem trust_strictAnti (k : Nat) : StrictAnti (trust · k) :=
  fun _ _ h => min_lt_min (by linarith) (by linarith)

theorem trust_zero (k : Nat) : trust 0 k = 1 := by
  have hk : (0 : ℚ) ≤ k / 10 := by positivity
  rw [trust, sub_zero, zero_div, sub_zero, min_eq_right (by linarith)]

theorem trust_eq_one_iff : trust x k = 1 ↔ x = 0 := by
  rw [← trust_zero k]
  exact (trust_strictAnti k).injective.eq_iff

end

namespace Frame

section

variable [ExactContext]

/-! ## The confidence as a rational number -/

theorem addBonus_finite (q : ℚ) (filled : Bool) :
    addBonus (Exact.finite q) filled = .finite (q + if filled then 1 / 10 else 0) := by
  cases filled with
  | false => rw [addBonus, if_neg nofun, if_neg nofun, add_zero]
  | true => norm_num [addBonus, slotBonus]

theorem foldl_addBonus (q : ℚ) (filled : List Bool) :
    filled.foldl addBonus (Exact.finite q) = .finite (q + filled.count true / 10) := by
  induction filled generalizing q with
  | nil => simp
  | cons b bs ih =>
      rw [List.foldl_cons, addBonus_finite, ih]
      cases b with
      | false => simp
      | true =>
          rw [if_pos rfl, List.count_cons_self, Nat.cast_add_one]
          congr 1
          ring

theorem confidenceOf_eq {matched : Nat} (h : 0 < matched) (unrecognized : Nat)
    (filled : List Bool) :
    confidenceOf matched unrecognized filled =
      Exact.finite (trust (noiseShare matched unrecognized) (filled.count true)) := by
  have htotal : 0 < matched + unrecognized := Nat.add_pos_left h _
  have hmatched : (Scalar.share matched (matched + unrecognized) : Exact) =
      .finite (1 - noiseShare matched unrecognized) := by
    rw [Exact.share_eq htotal, one_sub_noiseShare h, Nat.cast_add]
  have hnoise : (Scalar.share unrecognized (matched + unrecognized) : Exact) =
      .finite (noiseShare matched unrecognized) := by
    rw [Exact.share_eq htotal, noiseShare, Nat.cast_add]
  have hbonus : (slotBonus : Exact) = .finite (1 / 10) := by
    norm_num [slotBonus]
  rw [confidenceOf, hmatched, hnoise, hbonus, foldl_addBonus, Exact.one_eq,
    Exact.finite_mul_finite, Exact.finite_sub_finite, Exact.least_finite, one_div_mul_eq_div, trust]

/-- How many of mode, domain and action some symbols fill. -/
def filledSlots (symbols : List Symbol) : Nat :=
  [(firstOf symbols .mode).isSome, (firstOf symbols .domain).isSome,
    (firstOf symbols .action).isSome].count true

variable {o : Ontology} {raw : String} {f : Frame Exact}

theorem symbols_ne_nil (h : parse? o raw = some f) : f.symbols ≠ [] := by
  obtain ⟨hne, rfl⟩ := parse?_eq_some_iff.1 h
  exact hne

theorem confidence_of_parse? (h : parse? o raw = some f) :
    f.confidence = .finite
      (trust (noiseShare f.symbols.length f.unrecognized.length) (filledSlots f.symbols)) := by
  obtain ⟨hne, rfl⟩ := parse?_eq_some_iff.1 h
  simp only [ofParts, List.length_map]
  exact confidenceOf_eq (List.length_pos_iff.2 hne) ..

/-- The confidence in a frame that reads lies above zero and is at most one, and is one exactly if
all of the frame was recognized. Of two frames with the same matched symbols, the one of which more
was not recognized is read with less confidence. -/
theorem confidence_ranks_noise :
    (∀ (o : Ontology) (raw : String) (f : Frame Exact), parse? o raw = some f →
      0.0 < f.confidence ∧ f.confidence ≤ 1.0 ∧ (f.confidence = 1.0 ↔ f.unrecognized = [])) ∧
    ∀ (o : Ontology) (raw raw' : String) (f g : Frame Exact), parse? o raw = some f →
      parse? o raw' = some g → f.symbols = g.symbols →
      (g.confidence < f.confidence ↔ f.unrecognized.length < g.unrecognized.length) := by
  refine ⟨fun o raw f h => ?_, fun o raw raw' f g hf hg hsymbols => ?_⟩
  · have hpos : 0 < f.symbols.length := List.length_pos_iff.2 (symbols_ne_nil h)
    rw [confidence_of_parse? h, Exact.zero_eq, Exact.one_eq, Exact.finite_lt_finite,
      Exact.finite_le_finite, Exact.finite.injEq, trust_eq_one_iff, noiseShare_eq_zero_iff,
      List.length_eq_zero_iff]
    exact ⟨trust_pos (noiseShare_lt_one hpos _), trust_le_one (noiseShare_nonneg ..), Iff.rfl⟩
  · have hpos : 0 < g.symbols.length := List.length_pos_iff.2 (symbols_ne_nil hg)
    rw [confidence_of_parse? hf, confidence_of_parse? hg, hsymbols, Exact.finite_lt_finite,
      (trust_strictAnti _).lt_iff_gt, noiseShare_lt_iff hpos]

end

open scoped Exact.Whole

/-- The bonus of three filled slots lifts neither noisy frame to the clean one: with one unknown
character the cap is the smaller, with three the raised share is. -/
theorem confidence_ranks_noise_full_bonus :
    ∃ clean noisy noisier : Frame Exact,
      (parse? .standard "⊕◊▶" = some clean ∧ parse? .standard "⊕◊x▶" = some noisy ∧
        parse? .standard "⊕xyz◊▶" = some noisier ∧ clean.symbols = noisy.symbols ∧
        noisy.symbols = noisier.symbols ∧ clean.unrecognized = []) ∧
      clean.confidence = 1.0 ∧ noisy.confidence < clean.confidence ∧
      noisier.confidence < noisy.confidence ∧ 0.0 < noisier.confidence := by
  have reads (raw : String) (noise : List Char)
      (htext : (Ontology.standard.matched raw).map (·.token) = ["⊕", "◊", "▶"] ∧
        (Ontology.standard.tokenize raw).filterMap Token.unknown? = noise) :
      ∃ f : Frame Exact, parse? .standard raw = some f ∧ f.tokens = ["⊕", "◊", "▶"] ∧
        f.unrecognized = noise.map fun c => String.ofList [c] := by
    obtain ⟨f, hf, hft⟩ := exists_parse?_of_tokens (F := Exact) htext.1 nofun
    exact ⟨f, hf, hft, by rw [unrecognized_of_parse? hf, htext.2]⟩
  obtain ⟨clean, hclean, hct, hcn⟩ := reads "⊕◊▶" [] (by decide +kernel)
  obtain ⟨noisy, hnoisy, hnt, hnn⟩ := reads "⊕◊x▶" ['x'] (by decide +kernel)
  obtain ⟨noisier, hnoisier, hrt, hrn⟩ := reads "⊕xyz◊▶" ['x', 'y', 'z'] (by decide +kernel)
  have same : clean.symbols = noisy.symbols :=
    symbols_eq_of_tokens_eq hclean hnoisy (hct.trans hnt.symm)
  have same' : noisy.symbols = noisier.symbols :=
    symbols_eq_of_tokens_eq hnoisy hnoisier (hnt.trans hrt.symm)
  have recognized : clean.unrecognized = [] := hcn
  have more : clean.unrecognized.length < noisy.unrecognized.length := by
    rw [hcn, hnn]
    decide
  have more' : noisy.unrecognized.length < noisier.unrecognized.length := by
    rw [hnn, hrn]
    decide
  obtain ⟨bounds, ranks⟩ := confidence_ranks_noise
  exact ⟨clean, noisy, noisier, ⟨hclean, hnoisy, hnoisier, same, same', recognized⟩,
    (bounds _ _ _ hclean).2.2.2 recognized, (ranks _ _ _ _ _ hclean hnoisy same).2 more,
    (ranks _ _ _ _ _ hnoisy hnoisier same').2 more', (bounds _ _ _ hnoisier).1⟩

end Frame
end Mandate
