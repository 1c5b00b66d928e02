import Mathlib.Data.List.Pairwise
import Mandate.Proofs.Pattern.Language

/-!
# Where a search finds a pattern

A search takes the first place at which the pattern matches, and goes on behind that match. So it
may pass over a stretch of the pattern, but only over one that begins within a match that it takes:
`exists_mem_findAll`.
-/

namespace Mandate.Pattern

variable {p : Pattern} {c b e : Cursor} {fuel : Nat} {m : Cursor × Cursor} {cs : List Char}

/-- No stretch of the pattern is empty. -/
def Consumes (p : Pattern) : Prop :=
  ∀ b e, p.Matches b e → b.before.length < e.before.length

/-- Whether the pattern has to take a character, wherever it matches. -/
def takes : Pattern → Bool
  | one _ => true
  | border _ => false
  | seq p q => p.takes || q.takes
  | alt p q => p.takes && q.takes
  | times least _ p => decide (0 < least) && p.takes
  | nothing => false

theorem consumes_of_takes (h : p.takes = true) : p.Consumes := by
  intro b e hm
  induction p generalizing b e with
  | one isIn =>
      rw [length_of_matches_one hm]
      exact Nat.lt_succ_self _
  | border isIn => cases h
  | seq p q ihp ihq =>
      obtain ⟨d, hp, hq⟩ := hm
      rcases Bool.or_eq_true_iff.1 h with h | h
      · exact Nat.lt_of_lt_of_le (ihp h b d hp) hq.reaches.le
      · exact Nat.lt_of_le_of_lt hp.reaches.le (ihq h d e hq)
  | alt p q ihp ihq =>
      obtain ⟨hp, hq⟩ := Bool.and_eq_true_iff.1 h
      rcases hm with hm | hm
      · exact ihp hp b e hm
      · exact ihq hq b e hm
  | times least extra p ih =>
      obtain ⟨hleast, hp⟩ := Bool.and_eq_true_iff.1 h
      obtain ⟨n, hrun, hn, -⟩ := hm
      -- The first step moves on, and no later one goes back.
      cases hrun with
      | done => exact absurd (of_decide_eq_true hleast) (Nat.not_lt.2 hn)
      | more hstep hrest =>
          exact Nat.lt_of_lt_of_le (ih hp _ _ hstep) (hrest.reaches fun _ _ => Matches.reaches).le
  | nothing => cases h

/-- The stretch is the preferred one at its place. -/
def Prefers (p : Pattern) (m : Cursor × Cursor) : Prop :=
  (p.ends m.1).head? = some m.2

theorem Prefers.matches (h : p.Prefers m) : p.Matches m.1 m.2 :=
  mem_ends_iff.1 (List.mem_of_head? h)

/-- Of the stretches from a place on, this is the preferred one at the first place that has any. -/
structure IsFirst (p : Pattern) (c : Cursor) (m : Cursor × Cursor) : Prop where
  reaches : c.Reaches m.1
  prefers : p.Prefers m
  first : ∀ b e, c.Reaches b → p.Matches b e → m.1.Reaches b

/-! ## One search -/

theorem not_matches_of_ends_eq_nil (h : p.ends c = []) : ¬ p.Matches c e := by
  rw [← mem_ends_iff, h]
  exact List.not_mem_nil

theorem isFirst_of_firstFrom (h : p.firstFrom fuel c = some m) : p.IsFirst c m := by
  fun_induction firstFrom p fuel c with
  | case1 => cases h
  | case2 fuel c d ds hends =>
      obtain rfl := Option.some.inj h
      exact ⟨.refl c, by rw [Prefers, hends]; rfl, fun _ _ hb _ => hb⟩
  | case3 fuel c hends x d hnext ih =>
      obtain ⟨hreaches, hprefers, hfirst⟩ := ih h
      refine ⟨(Cursor.reaches_of_next? hnext).trans hreaches, hprefers, fun b e hb hm => ?_⟩
      rcases hb.eq_or_next with rfl | ⟨y, d', hnext', hd⟩
      · exact absurd hm (not_matches_of_ends_eq_nil hends)
      · obtain ⟨-, rfl⟩ : x = y ∧ d = d' := by simpa [hnext] using hnext'
        exact hfirst b e hd hm
  | case4 => cases h

/-- A search that tries every place finds a match if there is one. -/
theorem exists_firstFrom (hfuel : c.after.length < fuel) (hb : c.Reaches b)
    (hm : p.Matches b e) : ∃ m, p.firstFrom fuel c = some m := by
  fun_induction firstFrom p fuel c with
  | case1 => exact absurd hfuel (Nat.not_lt_zero _)
  | case2 => exact ⟨_, rfl⟩
  | case3 fuel c hends x d hnext ih =>
      rcases hb.eq_or_next with rfl | ⟨y, d', hnext', hd⟩
      · exact absurd hm (not_matches_of_ends_eq_nil hends)
      · obtain ⟨-, rfl⟩ : x = y ∧ d = d' := by simpa [hnext] using hnext'
        have hafter := (Cursor.next?_eq_some_iff.1 hnext).1
        exact ih (by simp [hafter] at hfuel; omega) hd
  | case4 fuel c hends hnext =>
      rcases hb.eq_or_next with rfl | ⟨y, d', hnext', _⟩
      · exact absurd hm (not_matches_of_ends_eq_nil hends)
      · rw [hnext] at hnext'
        cases hnext'

/-! ## Search after search -/

theorem of_mem_allFrom (h : m ∈ p.allFrom fuel c) : c.Reaches m.1 ∧ p.Prefers m := by
  fun_induction allFrom p fuel c with
  | case1 => cases h
  | case2 => cases h
  | case3 fuel c b e hfirst ih =>
      obtain ⟨hreaches, hprefers, _⟩ := isFirst_of_firstFrom hfirst
      rcases List.mem_cons.1 h with rfl | h
      · exact ⟨hreaches, hprefers⟩
      · exact ⟨(hreaches.trans hprefers.matches.reaches).trans (ih h).1, (ih h).2⟩

theorem of_mem_findAll (h : m ∈ p.findAll cs) : (Cursor.start cs).Reaches m.1 ∧ p.Prefers m :=
  of_mem_allFrom h

/-- Each match begins at the end of the one before it or behind it. -/
theorem pairwise_findAll (p : Pattern) (cs : List Char) :
    (p.findAll cs).Pairwise fun m m' => m.2.Reaches m'.1 := by
  suffices h : ∀ fuel c, (p.allFrom fuel c).Pairwise fun m m' => m.2.Reaches m'.1 from h _ _
  intro fuel c
  fun_induction allFrom p fuel c with
  | case1 => exact .nil
  | case2 => exact .nil
  | case3 fuel c b e _ ih => exact List.pairwise_cons.2 ⟨fun m hm => (of_mem_allFrom hm).1, ih⟩

/-- The place lies within the stretch, its end apart. -/
def Covers (m : Cursor × Cursor) (b : Cursor) : Prop :=
  m.1.Reaches b ∧ b.before.length < m.2.before.length

theorem exists_mem_allFrom (hp : p.Consumes) (hfuel : c.after.length < fuel) (hb : c.Reaches b)
    (hm : p.Matches b e) : ∃ m ∈ p.allFrom fuel c, Covers m b := by
  fun_induction allFrom p fuel c with
  | case1 => exact absurd hfuel (Nat.not_lt_zero _)
  | case2 fuel c hnone =>
      obtain ⟨m, hsome⟩ := exists_firstFrom (Nat.lt_succ_self _) hb hm
      rw [hnone] at hsome
      cases hsome
  | case3 fuel c b' e' hfirst ih =>
      obtain ⟨hreaches, hprefers, hleast⟩ := isFirst_of_firstFrom hfirst
      by_cases hcovers : b.before.length < e'.before.length
      · exact ⟨_, List.mem_cons_self, hleast b e hb hm, hcovers⟩
      · -- The stretch begins behind the match, where the search goes on.
        have hend : c.Reaches e' := hreaches.trans hprefers.matches.reaches
        have hshorter : e'.after.length < c.after.length := by
          have hle : c.before.length ≤ b'.before.length := hreaches.le
          have hlt : b'.before.length < e'.before.length := hp _ _ hprefers.matches
          have hlength := hend.length_eq
          omega
        obtain ⟨m, hmem, hm⟩ := ih (by omega) (hend.of_le hb (Nat.not_lt.1 hcovers))
        exact ⟨m, List.mem_cons_of_mem _ hmem, hm⟩

/-- Every stretch of the pattern begins within a match that the search takes. -/
theorem exists_mem_findAll (hp : p.Consumes) (hb : (Cursor.start cs).Reaches b)
    (hm : p.Matches b e) : ∃ m ∈ p.findAll cs, Covers m b :=
  exists_mem_allFrom hp (Nat.lt_succ_self _) hb hm

/-- No two matches of a search cover one place. -/
theorem eq_of_covers {m' : Cursor × Cursor} (hm : m ∈ p.findAll cs) (hm' : m' ∈ p.findAll cs)
    (hb : Covers m b) (hb' : Covers m' b) : m = m' := by
  have : Std.Symm fun m m' : Cursor × Cursor => Covers m b → Covers m' b → m = m' :=
    ⟨fun _ _ h g g' => (h g' g).symm⟩
  refine List.Pairwise.forall_of_forall (R := fun m m' => Covers m b → Covers m' b → m = m')
    (fun _ _ _ _ => rfl) ?_ hm hm' hb hb'
  refine (pairwise_findAll p cs).imp fun hreaches h h' => ?_
  exact absurd (Nat.le_trans hreaches.le h'.1.le) (Nat.not_le.2 h.2)

end Mandate.Pattern
