import Mandate.Proofs.Sensitive.Complete

/-!
# What a scan reports

A hit is a stretch of the content that is in the language of its kind, given by the bytes at which
it begins and ends, and no two hits of a kind share a byte. The hits stand in the order in which
they begin; those of several kinds that begin together stand in the order of the kinds. The sort of
a scan looks at the beginnings alone, so that the order of the kinds is what it leaves untouched:
`pairwise_mergeSort_of_ties`. The main statement is `scan_sound`.
-/

namespace Mandate

/-- A sorted list keeps what was so for each two of its members that tie. -/
theorem pairwise_mergeSort_of_ties {α : Type} (le : α → α → Bool) {R : α → α → Prop} {l : List α}
    (trans : ∀ a b c, le a b = true → le b c = true → le a c = true)
    (total : ∀ a b, (le a b || le b a) = true) (h : l.Pairwise R) :
    (l.mergeSort le).Pairwise fun a b => le a b = true ∧ (le b a = true → R a b) := by
  have hsorted := List.pairwise_mergeSort trans total l
  refine List.pairwise_iff_forall_sublist.2 fun {a b} hab => ?_
  have hle : le a b = true := List.pairwise_iff_forall_sublist.1 hsorted hab
  refine ⟨hle, fun hba => ?_⟩
  -- All that ties with `a` is sorted as it stands, so sorting keeps it as a part of the list.
  let ties : α → Bool := fun x => le a x && le x a
  have hkept : (l.filter ties).Pairwise fun x y => le x y = true := by
    refine List.pairwise_of_forall_mem_list fun x hx y hy => ?_
    simp only [ties, List.mem_filter, Bool.and_eq_true] at hx hy
    exact trans x a y hx.2.2 hy.2.1
  have hpart : (l.filter ties).Sublist ((l.mergeSort le).filter ties) := by
    simpa using (List.sublist_mergeSort trans total hkept List.filter_sublist).filter ties
  have hsame : l.filter ties = (l.mergeSort le).filter ties :=
    hpart.eq_of_length ((List.mergeSort_perm l le).filter ties).length_eq.symm
  have hrefl : le a a = true := by simpa using total a a
  have hties : [a, b].Sublist ((l.mergeSort le).filter ties) := by
    simpa [ties, hrefl, hle, hba] using hab.filter ties
  rw [← hsame] at hties
  exact List.pairwise_iff_forall_sublist.1 h (hties.trans List.filter_sublist)

namespace Sensitive

open Pattern

variable {kind : SensitiveKind} {content : String} {cs : List Char} {a b hit : SensitiveMatch}

/-! ## Hits of one kind -/

theorem kind_of_mem_hits (h : hit ∈ hits kind cs) : hit.kind = kind := by
  obtain ⟨_, -, -, rfl⟩ := mem_hits_iff.1 h
  rfl

theorem start_lt_stop (h : hit ∈ hits kind cs) : hit.start < hit.stop := by
  obtain ⟨m, hmem, -, rfl⟩ := mem_hits_iff.1 h
  obtain ⟨hbegin, hprefers⟩ := of_mem_findAll hmem
  have hm := hprefers.matches
  exact (byteLength_lt_iff hbegin (hbegin.trans hm.reaches)).2 (consumes_pattern kind _ _ hm)

theorem pairwise_hits (kind : SensitiveKind) (cs : List Char) :
    (hits kind cs).Pairwise fun a b => a.stop ≤ b.start := by
  refine List.pairwise_map.2 ?_
  exact ((pairwise_findAll _ cs).filter _).imp byteLength_le_of_reaches

/-- Of two hits of a kind, the one that begins first ends before the other begins. -/
theorem stop_le_start (ha : a ∈ hits kind cs) (hb : b ∈ hits kind cs) (hlt : a.start < b.start) :
    a.stop ≤ b.start := by
  by_contra hover
  have hbstop := start_lt_stop hb
  obtain ⟨m, hm, -, rfl⟩ := mem_hits_iff.1 ha
  obtain ⟨m', hm', -, rfl⟩ := mem_hits_iff.1 hb
  have hplace := (of_mem_findAll hm').1
  have hcovers : Covers m m'.1 :=
    (covers_hitOf_iff hm hplace).1 ⟨Nat.le_of_lt hlt, Nat.not_le.1 hover⟩
  have hown : Covers m' m'.1 := (covers_hitOf_iff hm' hplace).1 ⟨Nat.le_refl _, hbstop⟩
  obtain rfl := eq_of_covers hm hm' hcovers hown
  exact Nat.lt_irrefl _ hlt

/-! ## Where a hit lies -/

/-- The stretch of the content from one byte up to another is this text, between characters. -/
structure IsSlice (content : String) (start stop : Nat) (text : String) : Prop where
  start_isValid : String.Pos.Raw.IsValid content ⟨start⟩
  stop_isValid : String.Pos.Raw.IsValid content ⟨stop⟩
  bytes_eq : content.toByteArray.extract start stop = text.toByteArray

theorem isSlice_append (before text after : String) :
    IsSlice (before ++ text ++ after) before.utf8ByteSize (before ++ text).utf8ByteSize text where
  start_isValid := by
    rw [String.append_assoc]
    exact String.Pos.Raw.isValid_iff_exists_append.2 ⟨before, text ++ after, rfl, rfl⟩
  stop_isValid := String.Pos.Raw.isValid_iff_exists_append.2 ⟨before ++ text, after, rfl, rfl⟩
  bytes_eq := by
    have hstop : (before ++ text).utf8ByteSize = before.toByteArray.size + text.toByteArray.size :=
      String.utf8ByteSize_append
    rw [String.append_assoc, String.toByteArray_append, hstop]
    refine (ByteArray.extract_append_size_add (i := 0)).trans ?_
    rw [String.toByteArray_append]
    exact ByteArray.extract_append_eq_left rfl

theorem slice_stretch (before found after : String) :
    slice (stretch before found after).1 (stretch before found after).2 = found.toList := by
  simp [slice, stretch]

/-- What is reported stands between two other texts in the content, and there in the language of its
kind. A payment card has a valid check digit. -/
theorem exists_isSlice_of_mem_scan (h : hit ∈ scan content) :
    ∃ before found after, Occurs hit.kind content before found after ∧
      hit.start = before.utf8ByteSize ∧ IsSlice content hit.start hit.stop found ∧
      (hit.kind = .paymentCard → Luhn.isValid found.toList = true) := by
  obtain ⟨before, found, after, hoccurs, hstart, hstop, hhit⟩ := exists_occurs_of_mem_scan h
  refine ⟨before, found, after, hoccurs, hstart, ?_, fun hkind => ?_⟩
  · rw [hstart, hstop, hoccurs.content_eq]
    exact isSlice_append before found after
  · rwa [hkind, isHit_paymentCard, slice_stretch] at hhit

/-! ## The order of the hits -/

/-- The place of a kind in the order of the kinds. -/
def rank (kind : SensitiveKind) : Nat :=
  SensitiveKind.all.idxOf kind

/-- Kind by kind, the hits stand in the order of the kinds, and those of one kind one behind the
other. -/
theorem pairwise_flatMap_hits (cs : List Char) :
    (SensitiveKind.all.flatMap fun k => hits k cs).Pairwise fun a b =>
      rank a.kind ≤ rank b.kind ∧ (a.kind = b.kind → a.stop ≤ b.start) := by
  refine List.pairwise_flatMap.2 ⟨fun kind _ => ?_, ?_⟩
  · refine (List.Pairwise.and_mem.1 (pairwise_hits kind cs)).imp ?_
    rintro a b ⟨ha, hb, hle⟩
    rw [kind_of_mem_hits ha, kind_of_mem_hits hb]
    exact ⟨Nat.le_refl _, fun _ => hle⟩
  · have hranks : SensitiveKind.all.Pairwise fun k l => rank k < rank l := by decide
    refine hranks.imp fun hlt a ha b hb => ?_
    rw [kind_of_mem_hits ha, kind_of_mem_hits hb]
    exact ⟨Nat.le_of_lt hlt, fun heq => absurd hlt (heq ▸ Nat.lt_irrefl _)⟩

theorem rank_injective {k l : SensitiveKind} (h : rank k = rank l) : k = l := by
  revert h
  cases k <;> cases l <;> decide

/-- A hit comes before those that begin after it, and before those of later kinds that begin where
it begins. What it shares a kind with, it ends before. -/
theorem pairwise_scan (content : String) :
    (scan content).Pairwise fun a b =>
      (a.start < b.start ∨ a.start = b.start ∧ rank a.kind < rank b.kind) ∧
        (a.kind = b.kind → a.stop ≤ b.start) := by
  have hsorted := pairwise_mergeSort_of_ties (fun a b => decide (a.start ≤ b.start))
    (by simpa using fun a b c => Nat.le_trans) (by simpa using fun a b => Nat.le_total ..)
    (pairwise_flatMap_hits content.toList)
  refine (List.Pairwise.and_mem.1 hsorted).imp ?_
  rintro a b ⟨ha, hb, hle, hties⟩
  rw [decide_eq_true_eq] at hle
  have ha := mem_scan_iff.1 ha
  have hb := mem_scan_iff.1 hb
  rcases Nat.lt_or_eq_of_le hle with hlt | heq
  · exact ⟨Or.inl hlt, fun hkind => stop_le_start ha (hkind ▸ hb) hlt⟩
  · obtain ⟨hrank, hends⟩ := hties (decide_eq_true (Nat.le_of_eq heq.symm))
    refine ⟨Or.inr ⟨heq, Nat.lt_of_le_of_ne hrank fun hsame => ?_⟩, hends⟩
    have hstop := hends (rank_injective hsame)
    exact absurd (start_lt_stop ha) (Nat.not_lt.2 (heq ▸ hstop))

/-- Each hit of a scan is a stretch of the content between characters that is in the language of its
kind there, with a valid check digit if it is a payment card. The hits stand in the order in which
they begin, and of kinds where that is the same, and two of one kind share no byte. -/
theorem scan_sound (content : String) :
    (∀ hit ∈ scan content,
      hit.start < hit.stop ∧ hit.stop ≤ content.utf8ByteSize ∧
        ∃ before found after, Occurs hit.kind content before found after ∧
          hit.start = before.utf8ByteSize ∧ IsSlice content hit.start hit.stop found ∧
          (hit.kind = .paymentCard → Luhn.isValid found.toList = true)) ∧
    (scan content).Pairwise fun a b =>
      (a.start < b.start ∨ a.start = b.start ∧ rank a.kind < rank b.kind) ∧
        (a.kind = b.kind → a.stop ≤ b.start) := by
  refine ⟨fun hit hhit => ?_, pairwise_scan content⟩
  have hslice := exists_isSlice_of_mem_scan hhit
  refine ⟨start_lt_stop (mem_scan_iff.1 hhit), ?_, hslice⟩
  obtain ⟨_, _, _, _, _, hslice, _⟩ := hslice
  exact hslice.stop_isValid.le_rawEndPos

/-- An identity number begins a card number. Both begin at one byte, which is not the count of the
characters before it, and the identity number comes first. -/
theorem scan_sound_together :
    let content := "n° 123-45-6789-0003"
    let number : SensitiveMatch := ⟨.identityNumber, 4, 15⟩
    let card : SensitiveMatch := ⟨.paymentCard, 4, 20⟩
    (number ∈ scan content ∧ card ∈ scan content) ∧
      (∃ before found after, Occurs .paymentCard content before found after ∧
        IsSlice content 4 20 found ∧ Luhn.isValid found.toList = true) ∧
      rank number.kind < rank card.kind := by
  intro content number card
  have hnumber : number ∈ scan content := mem_scan_iff.2 (by decide +kernel)
  have hcard : card ∈ scan content := mem_scan_iff.2 (by decide +kernel)
  obtain ⟨hstretch, -⟩ := scan_sound content
  obtain ⟨-, -, before, found, after, hoccurs, -, hslice, hvalid⟩ := hstretch card hcard
  exact ⟨⟨hnumber, hcard⟩, ⟨before, found, after, hoccurs, hslice, hvalid rfl⟩, by decide⟩

end Sensitive
end Mandate
