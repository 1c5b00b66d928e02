import Mandate.Proofs.Pattern.Search
import Mandate.Sensitive

/-!
# The hits of a scan

A scan reports, kind by kind, what the search for the pattern of the kind takes, as far as it counts
as a hit: `mem_scan_iff`. Counted in bytes, the places of a text lie in the order in which they lie
counted in characters.
-/

namespace Mandate

/-- The byte lies within the hit. -/
def SensitiveMatch.Covers (hit : SensitiveMatch) (n : Nat) : Prop :=
  hit.start ≤ n ∧ n < hit.stop

namespace Sensitive

variable {a b c : Cursor} {cs : List Char} {content : String} {kind : SensitiveKind}
  {hit : SensitiveMatch}

/-! ## Places in bytes -/

theorem byteLength_append (cs ds : List Char) :
    byteLength (cs ++ ds) = byteLength cs + byteLength ds := by
  rw [byteLength, String.ofList_append, String.utf8ByteSize_append, byteLength, byteLength]

theorem byteLength_reverse (cs : List Char) : byteLength cs.reverse = byteLength cs := by
  induction cs with
  | nil => rfl
  | cons x cs ih =>
      rw [List.reverse_cons, byteLength_append, ih, Nat.add_comm, ← byteLength_append]
      rfl

theorem byteLength_toList (s : String) : byteLength s.toList = s.utf8ByteSize := by
  rw [byteLength, String.ofList_toList]

theorem byteLength_eq_zero_iff : byteLength cs = 0 ↔ cs = [] := by
  simp [byteLength]

theorem byteLength_le_of_reaches (h : b.Reaches c) : byteLength b.before ≤ byteLength c.before := by
  obtain ⟨between, -, hbefore⟩ := h
  rw [hbefore, byteLength_append]
  exact Nat.le_add_left _ _

theorem byteLength_lt_of_reaches (h : b.Reaches c) (hne : b ≠ c) :
    byteLength b.before < byteLength c.before := by
  obtain ⟨between, hafter, hbefore⟩ := id h
  have hbetween : byteLength between.reverse ≠ 0 := by
    rw [Ne, byteLength_eq_zero_iff]
    intro hnil
    exact hne (h.eq_of_length_eq (by rw [hbefore, hnil, List.nil_append]))
  rw [hbefore, byteLength_append]
  omega

theorem byteLength_lt_iff (hb : a.Reaches b) (hc : a.Reaches c) :
    byteLength b.before < byteLength c.before ↔ b.before.length < c.before.length := by
  constructor
  · intro hlt
    by_contra hle
    exact absurd hlt (Nat.not_lt.2 (byteLength_le_of_reaches (hc.of_le hb (Nat.not_lt.1 hle))))
  · intro hlt
    refine byteLength_lt_of_reaches (hb.of_le hc (Nat.le_of_lt hlt)) ?_
    rintro rfl
    exact absurd hlt (Nat.lt_irrefl _)

/-! ## Stretches of a text -/

/-- The stretch of a text between two others. -/
def stretch (before between after : String) : Cursor × Cursor :=
  (⟨before.toList.reverse, between.toList ++ after.toList⟩,
    ⟨(before ++ between).toList.reverse, after.toList⟩)

theorem start_reaches_stretch (before between after : String) :
    (Cursor.start (before ++ between ++ after).toList).Reaches (stretch before between after).1 := by
  refine ⟨before.toList, ?_, ?_⟩
  · simp [stretch, Cursor.start]
  · simp [stretch, Cursor.start]

theorem byteLength_stretch (before between after : String) :
    byteLength (stretch before between after).1.before = before.utf8ByteSize ∧
      byteLength (stretch before between after).2.before = (before ++ between).utf8ByteSize := by
  simp only [stretch, byteLength_reverse, byteLength_toList, and_self]

theorem exists_eq_stretch {m : Cursor × Cursor} (hm : (Cursor.start content.toList).Reaches m.1)
    (hreaches : m.1.Reaches m.2) :
    ∃ before between after, content = before ++ between ++ after ∧
      m = stretch before between after := by
  obtain ⟨before, hcontent, hbefore⟩ := hm
  obtain ⟨between, hbetween, hend⟩ := hreaches
  obtain ⟨⟨_, _⟩, ⟨_, after⟩⟩ := m
  simp only [Cursor.start, List.append_nil] at hcontent hbefore hbetween hend
  subst hbefore hbetween hend
  refine ⟨.ofList before, .ofList between, .ofList after, ?_, ?_⟩
  · rw [← String.toList_inj, hcontent]
    simp
  · simp [stretch]

/-! ## Which hits there are -/

theorem consumes_pattern (kind : SensitiveKind) : (pattern kind).Consumes :=
  Pattern.consumes_of_takes (by cases kind <;> decide +kernel)

/-- The hit that a stretch makes. -/
def hitOf (kind : SensitiveKind) (m : Cursor × Cursor) : SensitiveMatch :=
  ⟨kind, byteLength m.1.before, byteLength m.2.before⟩

theorem mem_hits_iff :
    hit ∈ hits kind cs ↔
      ∃ m ∈ (pattern kind).findAll cs, isHit kind m.1 m.2 = true ∧ hitOf kind m = hit := by
  simp only [hits, hitOf, List.mem_map, List.mem_filter, and_assoc]

theorem mem_scan_iff : hit ∈ scan content ↔ hit ∈ hits hit.kind content.toList := by
  simp only [scan, List.mem_mergeSort, List.mem_flatMap]
  constructor
  · rintro ⟨kind, -, hhit⟩
    obtain ⟨m, -, -, rfl⟩ := mem_hits_iff.1 hhit
    exact hhit
  · intro hhit
    exact ⟨hit.kind, by cases hit.kind <;> decide, hhit⟩

theorem hitOf_mem_scan {m : Cursor × Cursor} (hm : m ∈ (pattern kind).findAll content.toList)
    (hhit : isHit kind m.1 m.2 = true) : hitOf kind m ∈ scan content :=
  mem_scan_iff.2 (mem_hits_iff.2 ⟨m, hm, hhit, rfl⟩)

theorem isHit_paymentCard (b e : Cursor) : isHit .paymentCard b e = Luhn.isValid (slice b e) :=
  rfl

theorem covers_hitOf_iff {m : Cursor × Cursor} (hm : m ∈ (pattern kind).findAll cs)
    (hb : (Cursor.start cs).Reaches b) :
    (hitOf kind m).Covers (byteLength b.before) ↔ Pattern.Covers m b := by
  obtain ⟨hbegin, hprefers⟩ := Pattern.of_mem_findAll hm
  have hend := hbegin.trans hprefers.matches.reaches
  rw [SensitiveMatch.Covers, hitOf, Pattern.Covers, byteLength_lt_iff hb hend, ← Nat.not_lt,
    byteLength_lt_iff hb hbegin, Nat.not_lt]
  refine and_congr_left fun _ => ⟨fun hle => hbegin.of_le hb hle, fun h => h.le⟩

end Sensitive
end Mandate
