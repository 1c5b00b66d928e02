import Mandate.Proofs.Sensitive.Scan

/-!
# No stretch of a kind passes unseen

A scan does not report every stretch that is in the language of a pattern, for two of them may share
characters. But the search misses none altogether: one that it does not take begins within one that
it takes, and of the kinds without a check digit all that it takes is reported. So
`overlaps_of_occurs`, and no hit of a kind means no stretch of the kind anywhere.
-/

namespace Mandate

/-- A byte of the hit lies from one place of the text on and before another. -/
def SensitiveMatch.Overlaps (hit : SensitiveMatch) (start stop : Nat) : Prop :=
  ∃ n, hit.Covers n ∧ start ≤ n ∧ n < stop

namespace Sensitive

open Pattern

variable {kind : SensitiveKind} {content before found after : String}

/-- A text stands between two others in the content, and is there in the language of the pattern. -/
structure Occurs (kind : SensitiveKind) (content before found after : String) : Prop where
  content_eq : content = before ++ found ++ after
  isIn : (pattern kind).Matches (stretch before found after).1 (stretch before found after).2

theorem isHit_of_ne_paymentCard (hkind : kind ≠ .paymentCard) (b e : Cursor) :
    isHit kind b e = true := by
  rw [isHit, decide_eq_true hkind, Bool.true_or]

theorem Occurs.reaches (h : Occurs kind content before found after) :
    (Cursor.start content.toList).Reaches (stretch before found after).1 :=
  h.content_eq ▸ start_reaches_stretch before found after

theorem Occurs.utf8ByteSize_lt (h : Occurs kind content before found after) :
    before.utf8ByteSize < (before ++ found).utf8ByteSize := by
  obtain ⟨hbefore, hfound⟩ := byteLength_stretch before found after
  rw [← hbefore, ← hfound]
  refine (byteLength_lt_iff h.reaches (h.reaches.trans h.isIn.reaches)).2 ?_
  exact consumes_pattern kind _ _ h.isIn

theorem Occurs.exists_covers (h : Occurs kind content before found after)
    (hkind : kind ≠ .paymentCard) :
    ∃ hit ∈ scan content, hit.kind = kind ∧ hit.Covers before.utf8ByteSize := by
  obtain ⟨m, hmem, hcovers⟩ := exists_mem_findAll (consumes_pattern kind) h.reaches h.isIn
  refine ⟨hitOf kind m, hitOf_mem_scan hmem (isHit_of_ne_paymentCard hkind m.1 m.2), rfl, ?_⟩
  rw [← (byteLength_stretch before found after).1]
  exact (covers_hitOf_iff hmem h.reaches).2 hcovers

/-- What is reported occurs where the hit lies, and counts as a hit there. -/
theorem exists_occurs_of_mem_scan {hit : SensitiveMatch} (h : hit ∈ scan content) :
    ∃ before found after, Occurs hit.kind content before found after ∧
      hit.start = before.utf8ByteSize ∧ hit.stop = (before ++ found).utf8ByteSize ∧
      isHit hit.kind (stretch before found after).1 (stretch before found after).2 = true := by
  obtain ⟨m, hmem, hhit, heq⟩ := mem_hits_iff.1 (mem_scan_iff.1 h)
  obtain ⟨hbegin, hprefers⟩ := of_mem_findAll hmem
  have hm := hprefers.matches
  obtain ⟨before, found, after, hcontent, rfl⟩ := exists_eq_stretch hbegin hm.reaches
  obtain ⟨hbefore, hfound⟩ := byteLength_stretch before found after
  refine ⟨before, found, after, ⟨hcontent, hm⟩, ?_, ?_, hhit⟩
  · rw [← heq, ← hbefore]
    rfl
  · rw [← heq, ← hfound]
    rfl

/-- Of the kinds without a check digit, every stretch overlaps a hit, and where there is no hit there
is no stretch. -/
theorem overlaps_of_occurs (hkind : kind ≠ .paymentCard) (content : String) :
    (∀ before found after, Occurs kind content before found after →
      ∃ hit ∈ scan content, hit.kind = kind ∧
        hit.Overlaps before.utf8ByteSize (before ++ found).utf8ByteSize) ∧
    ((∀ hit ∈ scan content, hit.kind ≠ kind) ↔
      ¬ ∃ before found after, Occurs kind content before found after) := by
  constructor
  · intro before found after h
    obtain ⟨hit, hhit, hitkind, hcovers⟩ := h.exists_covers hkind
    exact ⟨hit, hhit, hitkind, _, hcovers, Nat.le_refl _, h.utf8ByteSize_lt⟩
  · constructor
    · rintro hnone ⟨before, found, after, h⟩
      obtain ⟨hit, hhit, hitkind, -⟩ := h.exists_covers hkind
      exact hnone hit hhit hitkind
    · rintro hnone hit hhit rfl
      obtain ⟨before, found, after, h, -⟩ := exists_occurs_of_mem_scan hhit
      exact hnone ⟨before, found, after, h⟩

/-- The search takes the first of two credentials together with the second, its value, and finds the
second no more; one letter of each is an `ſ`. -/
theorem overlaps_of_occurs_nested :
    let content := "clé: ſecret=paſſword:hunter2"
    (SensitiveKind.credential ≠ .paymentCard ∧
        Occurs .credential content "clé: ſecret=" "paſſword:hunter2" "" ∧
        (pattern .credential).Matches (stretch "clé: " "ſecret=paſſword:hunter2" "").1
          (stretch "clé: " "ſecret=paſſword:hunter2" "").2) ∧
      ∃ hit ∈ scan content, hit.kind = .credential ∧ hit.Overlaps 14 32 := by
  intro content
  have hoccurs : Occurs .credential content "clé: ſecret=" "paſſword:hunter2" "" :=
    ⟨by decide, mem_ends_iff.1 (by decide +kernel)⟩
  refine ⟨⟨by decide, hoccurs, mem_ends_iff.1 (by decide +kernel)⟩, ?_⟩
  exact (overlaps_of_occurs (by decide) content).1 _ _ _ hoccurs

end Sensitive
end Mandate
