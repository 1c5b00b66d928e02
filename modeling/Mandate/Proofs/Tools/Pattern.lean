import Mandate.Proofs.Tools.Expansion

/-!
# Patterns that ask for a word

A word without stars that stands between two stars is a pattern of the names that contain the word:
`isMatch_around_iff`.
-/

namespace Mandate.Glob

theorem isMatch_around_iff {w name : String} (hw : '*' ∉ w.toList) :
    isMatch ("*" ++ w ++ "*") name = true ↔ w.toList <:+: name.toList := by
  have hpattern : ("*" ++ w ++ "*").toList = '*' :: (w.toList ++ ['*']) := by simp
  rw [isMatch, hpattern, accepts_iff_expands]
  simp only [expands_star_iff, expands_append_iff, expands_word_iff hw, expands_nil_iff]
  constructor
  · rintro ⟨a, _, ⟨_, _, rfl, ⟨r, _, rfl, rfl⟩, rfl⟩, hname⟩
    exact ⟨a, r, by simp [hname]⟩
  · rintro ⟨a, r, hname⟩
    exact ⟨a, _, ⟨w.toList, _, rfl, ⟨r, [], rfl, rfl⟩, rfl⟩, by simp [← hname]⟩

end Mandate.Glob
