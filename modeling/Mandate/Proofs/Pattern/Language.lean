import Mandate.Pattern

/-!
# The language of a pattern

The ends that the matcher lists for a place are those of the stretches from there which are in the
language of the pattern: `mem_ends_iff`. An unbounded repetition loses nothing by its bound, for
steps that stay where they are can be left out (`Run.exists_short`).
-/

namespace Mandate

namespace Cursor

variable {a b c d : Cursor}

/-- The second place lies at the first or further on in the same text. -/
def Reaches (c d : Cursor) : Prop :=
  ∃ between, c.after = between ++ d.after ∧ d.before = between.reverse ++ c.before

theorem Reaches.refl (c : Cursor) : c.Reaches c :=
  ⟨[], rfl, rfl⟩

theorem Reaches.trans (h : a.Reaches b) (g : b.Reaches c) : a.Reaches c := by
  obtain ⟨between, hafter, hbefore⟩ := h
  obtain ⟨between', hafter', hbefore'⟩ := g
  refine ⟨between ++ between', ?_, ?_⟩
  · rw [hafter, hafter', List.append_assoc]
  · rw [hbefore', hbefore, List.reverse_append, List.append_assoc]

theorem next?_eq_some_iff {x : Char} :
    c.next? = some (x, d) ↔ c.after = x :: d.after ∧ d.before = x :: c.before := by
  obtain ⟨before, after⟩ := c
  obtain ⟨before', after'⟩ := d
  cases after with
  | nil => simp [next?]
  | cons y after =>
      simp only [next?, Option.some.injEq, Prod.mk.injEq, mk.injEq, List.cons.injEq]
      constructor
      · rintro ⟨rfl, rfl, rfl⟩
        exact ⟨⟨rfl, rfl⟩, rfl⟩
      · rintro ⟨⟨rfl, rfl⟩, rfl⟩
        exact ⟨rfl, rfl, rfl⟩

theorem reaches_of_next? {x : Char} (h : c.next? = some (x, d)) : c.Reaches d := by
  obtain ⟨hafter, hbefore⟩ := next?_eq_some_iff.1 h
  exact ⟨[x], hafter, hbefore⟩

theorem Reaches.length_eq (h : c.Reaches d) :
    c.before.length + c.after.length = d.before.length + d.after.length := by
  obtain ⟨between, hafter, hbefore⟩ := h
  simp only [hafter, hbefore, List.length_append, List.length_reverse]
  omega

theorem Reaches.le (h : c.Reaches d) : c.before.length ≤ d.before.length := by
  obtain ⟨between, -, hbefore⟩ := h
  simp [hbefore]

theorem Reaches.eq_of_length_eq (h : c.Reaches d) (heq : c.before.length = d.before.length) :
    c = d := by
  obtain ⟨between, hafter, hbefore⟩ := h
  obtain rfl : between = [] := by
    rw [hbefore, List.length_append, List.length_reverse] at heq
    exact List.eq_nil_of_length_eq_zero (by omega)
  obtain ⟨before, after⟩ := c
  obtain ⟨before', after'⟩ := d
  simp_all

/-- Of two places further on, the one with less before it reaches the other. -/
theorem Reaches.of_le (hb : a.Reaches b) (hc : a.Reaches c)
    (hle : b.before.length ≤ c.before.length) : b.Reaches c := by
  obtain ⟨toB, hafterB, hbeforeB⟩ := hb
  obtain ⟨toC, hafterC, hbeforeC⟩ := hc
  have hlength : toB.length ≤ toC.length := by
    simpa [hbeforeB, hbeforeC] using hle
  have hbegins : toB <+: toC :=
    List.prefix_of_prefix_length_le ⟨_, hafterB.symm⟩ ⟨_, hafterC.symm⟩ hlength
  obtain ⟨between, rfl⟩ := hbegins
  refine ⟨between, ?_, ?_⟩
  · rw [hafterB, List.append_assoc] at hafterC
    exact List.append_cancel_left hafterC
  · rw [hbeforeC, hbeforeB, List.reverse_append, List.append_assoc]

/-- From a place one is either there or goes on by its next character first. -/
theorem Reaches.eq_or_next (h : c.Reaches d) :
    c = d ∨ ∃ x e, c.next? = some (x, e) ∧ e.Reaches d := by
  obtain ⟨between, hafter, hbefore⟩ := h
  cases between with
  | nil =>
      obtain ⟨before, after⟩ := c
      obtain ⟨before', after'⟩ := d
      simp_all
  | cons x between =>
      refine Or.inr ⟨x, ⟨x :: c.before, between ++ d.after⟩, ?_, between, rfl, ?_⟩
      · exact next?_eq_some_iff.2 ⟨hafter, rfl⟩
      · simp [hbefore]

end Cursor

namespace Pattern

variable {step : Cursor → Cursor → Prop} {c d e : Cursor} {m n : Nat}

/-! ## Runs of steps -/

theorem run_zero_iff : Run step 0 c d ↔ d = c := by
  constructor
  · rintro ⟨⟩
    rfl
  · rintro rfl
    exact .done d

theorem run_succ_iff : Run step (n + 1) c e ↔ ∃ d, step c d ∧ Run step n d e := by
  constructor
  · intro h
    cases h with
    | more hstep h => exact ⟨_, hstep, h⟩
  · rintro ⟨d, hstep, h⟩
    exact .more hstep h

theorem run_add_iff : Run step (m + n) c e ↔ ∃ d, Run step m c d ∧ Run step n d e := by
  induction m generalizing c with
  | zero => simp [run_zero_iff]
  | succ m ih =>
      rw [Nat.succ_add]
      simp only [run_succ_iff, ih]
      constructor
      · rintro ⟨b, hb, d, hd, he⟩
        exact ⟨d, ⟨b, hb, hd⟩, he⟩
      · rintro ⟨d, ⟨b, hb, hd⟩, he⟩
        exact ⟨b, hb, d, hd, he⟩

theorem Run.reaches (hstep : ∀ c d, step c d → c.Reaches d) (h : Run step n c d) :
    c.Reaches d := by
  induction h with
  | done c => exact .refl c
  | more h _ ih => exact (hstep _ _ h).trans ih

/-- A run needs no more steps than there are characters left. -/
theorem Run.exists_short (hstep : ∀ c d, step c d → c.Reaches d) (h : Run step n c d) :
    ∃ m ≤ c.after.length, Run step m c d := by
  induction h with
  | done c => exact ⟨0, Nat.zero_le _, .done c⟩
  | @more n c d e h _ ih =>
      obtain ⟨m, hm, hrun⟩ := ih
      by_cases hstay : c.before.length = d.before.length
      · obtain rfl := (hstep c d h).eq_of_length_eq hstay
        exact ⟨m, hm, hrun⟩
      · refine ⟨m + 1, ?_, .more h hrun⟩
        have hle := (hstep c d h).le
        have hlength := (hstep c d h).length_eq
        omega

theorem Matches.reaches {p : Pattern} (h : p.Matches c d) : c.Reaches d := by
  induction p generalizing c d with
  | one isIn =>
      obtain ⟨x, hnext, _⟩ := h
      exact Cursor.reaches_of_next? hnext
  | border isIn =>
      obtain ⟨rfl, _⟩ := h
      exact .refl d
  | seq p q ihp ihq =>
      obtain ⟨b, hp, hq⟩ := h
      exact (ihp hp).trans (ihq hq)
  | alt p q ihp ihq =>
      rcases h with h | h
      · exact ihp h
      · exact ihq h
  | times least extra p ih =>
      obtain ⟨n, hrun, _⟩ := h
      exact hrun.reaches fun _ _ => ih
  | nothing =>
      obtain rfl := h
      exact .refl d

/-! ## The matcher -/

theorem mem_exactly_iff {step : Cursor → List Cursor} :
    d ∈ exactly step n c ↔ Run (fun a b => b ∈ step a) n c d := by
  induction n generalizing c with
  | zero => simp [exactly, run_zero_iff]
  | succ n ih => simp [exactly, run_succ_iff, ih]

theorem mem_upTo_iff {step : Cursor → List Cursor} :
    d ∈ upTo step n c ↔ ∃ m ≤ n, Run (fun a b => b ∈ step a) m c d := by
  induction n generalizing c with
  | zero => simp [upTo, run_zero_iff]
  | succ n ih =>
      simp only [upTo, List.mem_append, List.mem_flatMap, List.mem_singleton, ih]
      constructor
      · rintro (⟨b, hb, m, hm, hrun⟩ | rfl)
        · exact ⟨m + 1, Nat.succ_le_succ hm, .more hb hrun⟩
        · exact ⟨0, Nat.zero_le _, .done d⟩
      · rintro ⟨m, hm, hrun⟩
        cases hrun with
        | done => exact Or.inr rfl
        | more hb hrun => exact Or.inl ⟨_, hb, _, Nat.le_of_succ_le_succ hm, hrun⟩

/-- The listed ends are those of the stretches in the language of the pattern. -/
theorem mem_ends_iff {p : Pattern} : d ∈ p.ends c ↔ p.Matches c d := by
  induction p generalizing c d with
  | one isIn =>
      simp only [ends, Matches]
      cases c.next? with
      | none => simp
      | some next =>
          obtain ⟨x, b⟩ := next
          simp only [Option.some.injEq, Prod.mk.injEq]
          constructor
          · intro h
            split at h
            next hx => exact ⟨x, ⟨rfl, (List.mem_singleton.1 h).symm⟩, hx⟩
            next => cases h
          · rintro ⟨_, ⟨rfl, rfl⟩, hx⟩
            rw [if_pos hx]
            exact List.mem_singleton_self b
  | border isIn => by_cases hc : isBorder isIn c = true <;> simp [ends, Matches, hc]
  | seq p q ihp ihq => simp [ends, Matches, ihp, ihq]
  | alt p q ihp ihq => simp [ends, Matches, ihp, ihq]
  | times least extra p ih =>
      have hstep : (fun a b => b ∈ p.ends a) = p.Matches := by
        funext a b
        exact propext ih
      simp only [ends, Matches, List.mem_flatMap, mem_exactly_iff, mem_upTo_iff, hstep]
      constructor
      · rintro ⟨b, hleast, m, hm, hmore⟩
        refine ⟨least + m, run_add_iff.2 ⟨b, hleast, hmore⟩, Nat.le_add_right _ _, ?_⟩
        rintro k hk
        obtain rfl := Option.mem_def.1 hk
        exact Nat.add_le_add_left hm least
      · rintro ⟨n, hrun, hn, hextra⟩
        obtain ⟨m, rfl⟩ := Nat.exists_eq_add_of_le hn
        obtain ⟨b, hleast, hmore⟩ := run_add_iff.1 hrun
        refine ⟨b, hleast, ?_⟩
        cases extra with
        | none => exact hmore.exists_short fun _ _ => Matches.reaches
        | some k => exact ⟨m, Nat.le_of_add_le_add_left (hextra k rfl), hmore⟩
  | nothing => simp [ends, Matches]

/-! ## One character, and patterns that may be left out -/

variable {p : Pattern} {isIn : Char → Bool}

theorem matches_one_iff :
    (one isIn).Matches c d ↔
      ∃ x, isIn x = true ∧ c.after = x :: d.after ∧ d.before = x :: c.before := by
  simp only [Matches, Cursor.next?_eq_some_iff, and_comm]

theorem ends_one (isIn : Char → Bool) (c : Cursor) :
    (one isIn).ends c = [] ∨ ∃ d, (one isIn).Matches c d ∧ (one isIn).ends c = [d] := by
  unfold ends
  cases hnext : c.next? with
  | none => exact Or.inl rfl
  | some next =>
      obtain ⟨x, d⟩ := next
      by_cases hx : isIn x = true
      · exact Or.inr ⟨d, ⟨x, hnext, hx⟩, if_pos hx⟩
      · exact Or.inl (if_neg hx)

theorem length_of_matches_one (h : (one isIn).Matches c d) :
    d.before.length = c.before.length + 1 := by
  obtain ⟨x, -, -, hbefore⟩ := matches_one_iff.1 h
  rw [hbefore, List.length_cons]

theorem eq_or_reaches {x : Cursor} (h : (one isIn).Matches c d) (hx : c.Reaches x) :
    x = c ∨ d.Reaches x := by
  have hlength := length_of_matches_one h
  rcases Nat.lt_or_ge x.before.length d.before.length with hlt | hge
  · have hle := hx.le
    exact Or.inl (hx.eq_of_length_eq (by omega)).symm
  · exact Or.inr (h.reaches.of_le hx hge)

theorem ends_optional (p : Pattern) (c : Cursor) : (optional p).ends c = p.ends c ++ [c] := by
  simp [optional, ends, exactly, upTo, List.flatMap_singleton']

theorem matches_optional_iff : (optional p).Matches c d ↔ p.Matches c d ∨ d = c := by
  rw [← mem_ends_iff, ends_optional, List.mem_append, mem_ends_iff, List.mem_singleton]

end Pattern
end Mandate
