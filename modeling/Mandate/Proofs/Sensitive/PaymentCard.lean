import Mandate.Binary64
import Mandate.Proofs.Gate.Floor
import Mandate.Proofs.Sensitive.Scan

/-!
# Card numbers in a text

The search takes one stretch over the first digit of each card number, and looks at its check digit
alone. So a valid number is reported if it stands alone, and else if the longer stretch that hides
it happens to be valid as well: `caught_of_cardNumber`. The longest stretch at a place is the
preferred one, since a mark that is not taken stands where a digit has to follow.
-/

namespace Mandate

/-! ## The furthest end first -/

/-- The places lie behind the given one, the furthest first. -/
structure FarFirst (c : Cursor) (ds : List Cursor) : Prop where
  behind : ∀ d ∈ ds, c.before.length < d.before.length
  ordered : ds.Pairwise fun d e => e.before.length < d.before.length

namespace FarFirst

variable {c d : Cursor} {ds : List Cursor}

theorem nil (c : Cursor) : FarFirst c [] :=
  ⟨nofun, .nil⟩

theorem of_le (h : FarFirst d ds) (hle : c.before.length ≤ d.before.length) : FarFirst c ds :=
  ⟨fun e he => Nat.lt_of_le_of_lt hle (h.behind e he), h.ordered⟩

theorem append_singleton (h : FarFirst c ds) (hd : c.before.length < d.before.length)
    (hds : ∀ e ∈ ds, d.before.length < e.before.length) : FarFirst c (ds ++ [d]) := by
  constructor
  · intro e he
    rcases List.mem_append.1 he with he | he
    · exact h.behind e he
    · exact List.mem_singleton.1 he ▸ hd
  · refine List.pairwise_append.2 ⟨h.ordered, List.pairwise_singleton _ _, ?_⟩
    intro e he f hf
    exact List.mem_singleton.1 hf ▸ hds e he

/-- No place further on comes later than the first. -/
theorem le_of_head? (h : FarFirst c ds) (hd : ds.head? = some d) {e : Cursor} (he : e ∈ ds) :
    e.before.length ≤ d.before.length := by
  obtain ⟨rest, rfl⟩ := List.head?_eq_some_iff.1 hd
  rcases List.mem_cons.1 he with rfl | he
  · exact Nat.le_refl _
  · exact Nat.le_of_lt ((List.pairwise_cons.1 h.ordered).1 e he)

end FarFirst

namespace Sensitive

open Pattern

variable {b c d e : Cursor} {k : Cursor → List Cursor} {cs : List Char}

/-- A mark between the digits of a card number. -/
def isMark (c : Char) : Bool :=
  c == ' ' || c == '-'

/-- A digit and the mark behind it, if there is one. -/
def group : Pattern :=
  seq digit (optional (one isMark))

/-- The last digit. -/
def lastDigit : Pattern :=
  seq digit wordBorder

theorem paymentCard_eq :
    paymentCard = seq wordBorder (seq (times 12 (some 6) group) lastDigit) :=
  rfl

theorem digit_ends_of_mark {x : Char} {cs : List Char} (hafter : c.after = x :: cs)
    (hx : isMark x = true) : digit.ends c = [] := by
  have hdigit : Text.isDecimalDigit x = false := by
    simp only [isMark, Bool.or_eq_true, beq_iff_eq] at hx
    rcases hx with rfl | rfl <;> decide
  simp [digit, ends, Cursor.next?, hafter, hdigit]

/-! ## The ends of a card number -/

/-- A way to go on that needs a digit at once. -/
def NeedsDigit (k : Cursor → List Cursor) : Prop :=
  ∀ c, digit.ends c = [] → k c = []

theorem NeedsDigit.seq (p : Pattern) : NeedsDigit (seq digit p).ends := by
  intro c hc
  rw [ends, hc, List.flatMap_nil]

theorem flatMap_group_eq_nil (hc : digit.ends c = []) (k : Cursor → List Cursor) :
    (group.ends c).flatMap k = [] := by
  rw [group, NeedsDigit.seq _ c hc, List.flatMap_nil]

-- Without the mark that stands behind its digit, a group cannot go on.
theorem flatMap_group (hk : NeedsDigit k) (c : Cursor) :
    (group.ends c).flatMap k = [] ∨
      ∃ d, c.before.length < d.before.length ∧ (group.ends c).flatMap k = k d := by
  rw [group, ends]
  rcases ends_one Text.isDecimalDigit c with hnone | ⟨d, hd, hdigit⟩
  · exact Or.inl (by rw [digit, hnone]; rfl)
  · refine Or.inr ?_
    have hlength := length_of_matches_one hd
    rw [digit, hdigit, List.flatMap_singleton, ends_optional]
    rcases ends_one isMark d with hnone | ⟨e, he, hmark⟩
    · exact ⟨d, by omega, by simp [hnone]⟩
    · have hlength' := length_of_matches_one he
      obtain ⟨x, hx, hafter, -⟩ := matches_one_iff.1 he
      refine ⟨e, by omega, ?_⟩
      simp [hmark, hk d (digit_ends_of_mark hafter hx)]

theorem farFirst_flatMap_group (hk : NeedsDigit k) (h : ∀ d, FarFirst d (k d)) (c : Cursor) :
    FarFirst c ((group.ends c).flatMap k) ∧
      ∀ d ∈ (group.ends c).flatMap k, c.before.length + 1 < d.before.length := by
  rcases flatMap_group hk c with hnone | ⟨d, hd, hgroup⟩
  · rw [hnone]
    exact ⟨.nil c, nofun⟩
  · rw [hgroup]
    exact ⟨(h d).of_le (Nat.le_of_lt hd), fun e he => Nat.lt_of_le_of_lt hd ((h d).behind e he)⟩

theorem farFirst_append_lastDigit {ds : List Cursor} (h : FarFirst c ds)
    (hds : ∀ d ∈ ds, c.before.length + 1 < d.before.length) :
    FarFirst c (ds ++ lastDigit.ends c) := by
  rw [lastDigit, ends]
  rcases ends_one Text.isDecimalDigit c with hnone | ⟨d, hd, hdigit⟩
  · rwa [digit, hnone, List.flatMap_nil, List.append_nil]
  · have hlength := length_of_matches_one hd
    rw [digit, hdigit, List.flatMap_singleton, wordBorder, ends]
    split
    · exact h.append_singleton (by omega) (hlength ▸ hds)
    · rwa [List.append_nil]

/-- Where a number can end of which at most so many digits and the last are left. -/
def lastEnds (n : Nat) (c : Cursor) : List Cursor :=
  (upTo group.ends n c).flatMap lastDigit.ends

theorem lastEnds_zero (c : Cursor) : lastEnds 0 c = lastDigit.ends c := by
  rw [lastEnds, upTo, List.flatMap_singleton]

theorem lastEnds_succ (n : Nat) (c : Cursor) :
    lastEnds (n + 1) c = (group.ends c).flatMap (lastEnds n) ++ lastDigit.ends c := by
  rw [lastEnds, upTo, List.flatMap_append, List.flatMap_assoc, List.flatMap_singleton]
  rfl

theorem needsDigit_lastEnds (n : Nat) : NeedsDigit (lastEnds n) := by
  intro c hc
  have hlast : lastDigit.ends c = [] := NeedsDigit.seq _ c hc
  cases n with
  | zero => rw [lastEnds_zero, hlast]
  | succ n => rw [lastEnds_succ, hlast, flatMap_group_eq_nil hc, List.append_nil]

theorem farFirst_lastEnds (n : Nat) (c : Cursor) : FarFirst c (lastEnds n c) := by
  induction n generalizing c with
  | zero =>
      rw [lastEnds_zero, ← List.nil_append (lastDigit.ends c)]
      exact farFirst_append_lastDigit (.nil c) nofun
  | succ n ih =>
      rw [lastEnds_succ]
      obtain ⟨hfar, hbehind⟩ := farFirst_flatMap_group (needsDigit_lastEnds n) ih c
      exact farFirst_append_lastDigit hfar hbehind

/-- Where a number can end of which so many digits are left, at most six more, and the last. -/
def cardEnds (n : Nat) (c : Cursor) : List Cursor :=
  (exactly group.ends n c).flatMap (lastEnds 6)

theorem cardEnds_zero (c : Cursor) : cardEnds 0 c = lastEnds 6 c := by
  rw [cardEnds, exactly, List.flatMap_singleton]

theorem cardEnds_succ (n : Nat) (c : Cursor) :
    cardEnds (n + 1) c = (group.ends c).flatMap (cardEnds n) := by
  rw [cardEnds, exactly, List.flatMap_assoc]
  rfl

theorem needsDigit_cardEnds (n : Nat) : NeedsDigit (cardEnds n) := by
  intro c hc
  cases n with
  | zero => rw [cardEnds_zero, needsDigit_lastEnds _ c hc]
  | succ n => rw [cardEnds_succ, flatMap_group_eq_nil hc]

theorem farFirst_cardEnds (n : Nat) (c : Cursor) : FarFirst c (cardEnds n c) := by
  induction n generalizing c with
  | zero =>
      rw [cardEnds_zero]
      exact farFirst_lastEnds 6 c
  | succ n ih =>
      rw [cardEnds_succ]
      exact (farFirst_flatMap_group (needsDigit_cardEnds n) ih c).1

theorem farFirst_paymentCard (c : Cursor) : FarFirst c (paymentCard.ends c) := by
  have hcard : (seq (times 12 (some 6) group) lastDigit).ends c = cardEnds 12 c := by
    rw [cardEnds, ends, ends, List.flatMap_assoc]
    rfl
  rw [paymentCard_eq, ends, wordBorder, ends]
  split
  · rw [List.flatMap_singleton, hcard]
    exact farFirst_cardEnds 12 c
  · exact .nil c

/-- The preferred card number at a place is the longest one. -/
theorem le_of_prefers {m : Cursor × Cursor} (h : paymentCard.Prefers m)
    (he : paymentCard.Matches m.1 e) : e.before.length ≤ m.2.before.length :=
  (farFirst_paymentCard m.1).le_of_head? h (mem_ends_iff.2 he)

/-! ## A number that stands alone -/

/-- No other card number reaches into this one from before it, or goes on behind it. -/
structure StandsAlone (b e : Cursor) : Prop where
  first : ∀ b' e', b'.Reaches b → paymentCard.Matches b' e' →
    b.before.length < e'.before.length → b' = b
  longest : ∀ e', paymentCard.Matches b e' → e'.before.length ≤ e.before.length

/-- The search takes a number that stands alone. -/
theorem StandsAlone.mem_findAll (h : StandsAlone b e) (hb : (Cursor.start cs).Reaches b)
    (hm : paymentCard.Matches b e) : (b, e) ∈ paymentCard.findAll cs := by
  obtain ⟨m, hmem, hreaches, hlt⟩ := exists_mem_findAll (consumes_pattern .paymentCard) hb hm
  have hprefers := (of_mem_findAll hmem).2
  obtain rfl : m.1 = b := h.first m.1 m.2 hreaches hprefers.matches hlt
  have hle : e.before.length ≤ m.2.before.length := le_of_prefers hprefers hm
  have hge : m.2.before.length ≤ e.before.length := h.longest m.2 hprefers.matches
  obtain rfl : e = m.2 :=
    (hm.reaches.of_le hprefers.matches.reaches hle).eq_of_length_eq (Nat.le_antisymm hle hge)
  exact hmem

/-- A digit comes next, perhaps behind a mark. -/
def nearDigit : List Char → Bool
  | [] => false
  | x :: cs => Text.isDecimalDigit x || (isMark x && cs.head?.any Text.isDecimalDigit)

theorem nearDigit_of_head (h : cs.head?.any Text.isDecimalDigit = true) : nearDigit cs = true := by
  cases cs with
  | nil => cases h
  | cons x cs => exact Bool.or_eq_true_iff.2 (Or.inl h)

theorem nearDigit_cons_mark {x : Char} (hx : isMark x = true)
    (h : cs.head?.any Text.isDecimalDigit = true) : nearDigit (x :: cs) = true := by
  rw [nearDigit, hx, h, Bool.and_true, Bool.or_true]

theorem matches_group_iff :
    group.Matches c e ↔ ∃ d, digit.Matches c d ∧ ((one isMark).Matches d e ∨ e = d) :=
  exists_congr fun _ => and_congr_right fun _ => matches_optional_iff

theorem exists_run_of_matches (h : paymentCard.Matches b e) :
    ∃ n d, Run group.Matches n b d ∧ digit.Matches d e := by
  obtain ⟨_, ⟨rfl, _⟩, d, ⟨n, hrun, _⟩, _, hlast, rfl, _⟩ := h
  exact ⟨n, d, hrun, hlast⟩

theorem head_after (h : digit.Matches c d) : c.after.head?.any Text.isDecimalDigit = true := by
  obtain ⟨x, hx, hafter, -⟩ := matches_one_iff.1 h
  simp [hafter, hx]

theorem head_before (h : digit.Matches c d) : d.before.head?.any Text.isDecimalDigit = true := by
  obtain ⟨x, hx, -, hbefore⟩ := matches_one_iff.1 h
  simp [hbefore, hx]

theorem head_of_run {n : Nat} (hrun : Run group.Matches n c d) (hlast : digit.Matches d e) :
    c.after.head?.any Text.isDecimalDigit = true := by
  cases hrun with
  | done => exact head_after hlast
  | more hgroup _ =>
      obtain ⟨_, hdigit, _⟩ := matches_group_iff.1 hgroup
      exact head_after hdigit

/-- Within a number, a digit is near on both sides of each place. -/
theorem nearDigit_of_run {n : Nat} {x : Cursor} (hrun : Run group.Matches n c d)
    (hlast : digit.Matches d e) (hx : c.Reaches x) (hlt : x.before.length < e.before.length) :
    nearDigit x.after = true ∧ (x = c ∨ nearDigit x.before = true) := by
  induction hrun with
  | done c =>
      have hlength := length_of_matches_one hlast
      obtain rfl | hreaches := eq_or_reaches hlast hx
      · exact ⟨nearDigit_of_head (head_after hlast), Or.inl rfl⟩
      · exact absurd hreaches.le (Nat.not_le.2 hlt)
  | @more n c a d hgroup hrun ih =>
      obtain ⟨f, hdigit, hmark⟩ := matches_group_iff.1 hgroup
      obtain rfl | hfx := eq_or_reaches hdigit hx
      · exact ⟨nearDigit_of_head (head_after hdigit), Or.inl rfl⟩
      have hbefore : nearDigit f.before = true := nearDigit_of_head (head_before hdigit)
      rcases hmark with hmark | rfl
      · obtain ⟨y, hy, hafter, habefore⟩ := matches_one_iff.1 hmark
        obtain rfl | hax := eq_or_reaches hmark hfx
        · rw [hafter]
          exact ⟨nearDigit_cons_mark hy (head_of_run hrun hlast), Or.inr hbefore⟩
        · obtain ⟨hxafter, rfl | hxbefore⟩ := ih hlast hax
          · rw [habefore]
            exact ⟨hxafter, Or.inr (nearDigit_cons_mark hy (head_before hdigit))⟩
          · exact ⟨hxafter, Or.inr hxbefore⟩
      · obtain ⟨hxafter, rfl | hxbefore⟩ := ih hlast hfx
        · exact ⟨hxafter, Or.inr hbefore⟩
        · exact ⟨hxafter, Or.inr hxbefore⟩

/-- A number stands alone if no digit is near on either side of it. -/
theorem standsAlone_of_nearDigit (hm : paymentCard.Matches b e)
    (hbefore : nearDigit b.before = false) (hafter : nearDigit e.after = false) :
    StandsAlone b e := by
  constructor
  · intro b' e' hb' hm' hlt
    obtain ⟨n, d, hrun, hlast⟩ := exists_run_of_matches hm'
    obtain ⟨-, heq | hnear⟩ := nearDigit_of_run hrun hlast hb' hlt
    · exact heq.symm
    · rw [hbefore] at hnear
      cases hnear
  · intro e' hm'
    by_contra hlonger
    obtain ⟨n, d, hrun, hlast⟩ := exists_run_of_matches hm'
    have hnear := (nearDigit_of_run hrun hlast hm.reaches (Nat.not_le.1 hlonger)).1
    rw [hafter] at hnear
    cases hnear

/-! ## Which numbers are caught -/

/-- A valid number is caught if it stands alone, and in general if and only if the stretch that the
search takes over its first digit is valid. -/
theorem caught_of_cardNumber {content : String} (hb : (Cursor.start content.toList).Reaches b)
    (hm : paymentCard.Matches b e) (hvalid : Luhn.isValid (slice b e) = true) :
    (∃ m ∈ paymentCard.findAll content.toList, Covers m b ∧
      ((∃ hit ∈ scan content, hit.kind = .paymentCard ∧ hit.Covers (byteLength b.before)) ↔
        Luhn.isValid (slice m.1 m.2) = true)) ∧
    (StandsAlone b e →
      hitOf .paymentCard (b, e) ∈ scan content ∧
        ∀ (F : Type) [Scalar F] (s : FloorSettings F) (x : Signals F),
          x.content = some content → (s.verdict x).passed = false) := by
  constructor
  · obtain ⟨m, hmem, hcovers⟩ := exists_mem_findAll (consumes_pattern .paymentCard) hb hm
    refine ⟨m, hmem, hcovers, ?_, fun hvalid => ?_⟩
    · rintro ⟨hit, hhit, hkind, hover⟩
      obtain ⟨m', hmem', hvalid', rfl⟩ := mem_hits_iff.1 (hkind ▸ mem_scan_iff.1 hhit)
      obtain rfl := eq_of_covers hmem hmem' hcovers ((covers_hitOf_iff hmem' hb).1 hover)
      rwa [isHit_paymentCard] at hvalid'
    · exact ⟨hitOf .paymentCard m, hitOf_mem_scan hmem hvalid, rfl,
        (covers_hitOf_iff hmem hb).2 hcovers⟩
  · intro halone
    have hhit : hitOf .paymentCard (b, e) ∈ scan content :=
      hitOf_mem_scan (halone.mem_findAll hb hm) hvalid
    refine ⟨hhit, fun F _ s x hcontent => ?_⟩
    exact FloorSettings.passed_of_violates (c := .sensitiveData)
      ⟨content, hcontent, List.ne_nil_of_mem hhit⟩

theorem caught_with_mixed_marks :
    let m := stretch "réf 12: " "4111-1111 1111 1111" "  123"
    let content := "réf 12: 4111-1111 1111 1111  123"
    ((Cursor.start content.toList).Reaches m.1 ∧ paymentCard.Matches m.1 m.2 ∧
        Luhn.isValid (slice m.1 m.2) = true ∧ StandsAlone m.1 m.2) ∧
      ⟨.paymentCard, 9, 28⟩ ∈ scan content ∧
        ((FloorSettings.default : FloorSettings Float).verdict
          ⟨.flexible, some content, 0, 0, 0⟩).passed = false := by
  intro m content
  have hb : (Cursor.start content.toList).Reaches m.1 := ⟨"réf 12: ".toList, by decide, by decide⟩
  have hm : paymentCard.Matches m.1 m.2 := mem_ends_iff.1 (by decide +kernel)
  have hvalid : Luhn.isValid (slice m.1 m.2) = true := by decide +kernel
  have halone : StandsAlone m.1 m.2 :=
    standsAlone_of_nearDigit hm (by decide +kernel) (by decide +kernel)
  refine ⟨⟨hb, hm, hvalid, halone⟩, ?_⟩
  obtain ⟨hhit, hheld⟩ := (caught_of_cardNumber hb hm hvalid).2 halone
  exact ⟨hhit, hheld Float _ _ rfl⟩

/-- Three digits behind a valid number hide it, for with them it is a longer number that is not
valid. -/
theorem not_forall_cardNumber_caught :
    ¬ ∀ (content : String) (b e : Cursor), (Cursor.start content.toList).Reaches b →
      paymentCard.Matches b e → Luhn.isValid (slice b e) = true → scan content ≠ [] := by
  intro h
  let m := stretch "card " "4111 1111 1111 1111" " 123"
  have hhits : ∀ kind, hits kind "card 4111 1111 1111 1111 123".toList = [] := by
    intro kind
    cases kind <;> decide +kernel
  refine h "card 4111 1111 1111 1111 123" m.1 m.2 ⟨"card ".toList, by decide, by decide⟩
    (mem_ends_iff.1 (by decide +kernel)) (by decide +kernel) ?_
  refine List.eq_nil_iff_forall_not_mem.2 fun hit hhit => ?_
  rw [mem_scan_iff, hhits] at hhit
  cases hhit

end Sensitive
end Mandate
