import Mandate.Binary64
import Mandate.Proofs.Frame.Description
import Mandate.Proofs.Ontology.Written
import Mandate.Proofs.Tripwire.Run

/-!
# The reference interpreter and its probes

A probe is written without separators, so it is read as it was meant only if its tokens can be told
apart, or if what its text is read as happens to name the same symbols. `Tripwires.reference_passes_probes`
says which probes the reference interpreter passes, and that over a table of which no token begins
another it passes all of them.
-/

namespace Mandate

variable {o : Ontology} {m d a s : Symbol} {draw : Draw}

/-! ## Drawing a probe -/

theorem Ontology.mem_ofCategory_iff {category : Category} :
    s ∈ o.ofCategory category ↔ s ∈ o.symbols ∧ s.category = category := by
  simp [ofCategory]

/-- A mode, a domain and an action of the table. -/
structure Ontology.IsProbe (o : Ontology) (m d a : Symbol) : Prop where
  mode : m ∈ o.ofCategory .mode
  domain : d ∈ o.ofCategory .domain
  action : a ∈ o.ofCategory .action

/-- The choice falls on these symbols. -/
structure Draw.FallsOn (draw : Draw) (o : Ontology) (m d a : Symbol) : Prop where
  mode : pick? (o.ofCategory .mode) draw.mode = some m
  domain : pick? (o.ofCategory .domain) draw.domain = some d
  action : pick? (o.ofCategory .action) draw.action = some a

theorem exists_pick?_eq_some {symbols : List Symbol} (h : symbols ≠ []) (place : Nat) :
    ∃ s, pick? symbols place = some s :=
  ⟨_, List.getElem?_eq_getElem (Nat.mod_lt place (List.length_pos_iff.2 h))⟩

theorem mem_iff_exists_pick? {symbols : List Symbol} :
    s ∈ symbols ↔ ∃ place, pick? symbols place = some s := by
  constructor
  · intro h
    obtain ⟨i, hi, rfl⟩ := List.mem_iff_getElem.1 h
    exact ⟨i, by rw [pick?, Nat.mod_eq_of_lt hi, List.getElem?_eq_getElem hi]⟩
  · rintro ⟨place, h⟩
    exact List.mem_of_getElem? h

theorem Ontology.isProbe_iff_exists_draw : o.IsProbe m d a ↔ ∃ draw : Draw, draw.FallsOn o m d a := by
  constructor
  · rintro ⟨hm, hd, ha⟩
    obtain ⟨i, hi⟩ := mem_iff_exists_pick?.1 hm
    obtain ⟨j, hj⟩ := mem_iff_exists_pick?.1 hd
    obtain ⟨k, hk⟩ := mem_iff_exists_pick?.1 ha
    exact ⟨⟨i, j, k⟩, hi, hj, hk⟩
  · rintro ⟨draw, hm, hd, ha⟩
    exact ⟨mem_iff_exists_pick?.2 ⟨_, hm⟩, mem_iff_exists_pick?.2 ⟨_, hd⟩,
      mem_iff_exists_pick?.2 ⟨_, ha⟩⟩

theorem Draw.exists_fallsOn (ho : o.IsAccepted) (draw : Draw) :
    ∃ m d a, draw.FallsOn o m d a := by
  have hnonempty {r : Category × String} (hr : r ∈ Ontology.required) :
      o.ofCategory r.1 ≠ [] := by
    obtain ⟨s, hs⟩ := ho.exists_required hr
    exact List.ne_nil_of_mem (Ontology.mem_ofCategory_iff.2
      ⟨List.mem_of_find?_eq_some hs, (Ontology.named_of_find? hs).1⟩)
  obtain ⟨m, hm⟩ := exists_pick?_eq_some
    (hnonempty (r := (.mode, "neutral")) (by decide)) draw.mode
  obtain ⟨d, hd⟩ := exists_pick?_eq_some
    (hnonempty (r := (.domain, "operational")) (by decide)) draw.domain
  obtain ⟨a, ha⟩ := exists_pick?_eq_some
    (hnonempty (r := (.action, "propose")) (by decide)) draw.action
  exact ⟨m, d, a, hm, hd, ha⟩

/-- The probe of some symbols. -/
def Probe.of (id : AuditId) (m d a : Symbol) : Probe :=
  ⟨id, m.token ++ d.token ++ a.token, ⟨m.name, d.name, a.name⟩⟩

theorem Probe.ofDraw?_eq (h : draw.FallsOn o m d a) (id : AuditId) :
    ofDraw? o id draw = some (.of id m d a) := by
  simp [ofDraw?, h.mode, h.domain, h.action, of]

theorem Probe.length_synthesize (ho : o.IsAccepted) (id : AuditId) (draws : Nat → Draw)
    (count : Nat) : (synthesize o id draws count).length = count := by
  rw [synthesize, List.length_filterMap_eq_countP, List.countP_eq_length.2, List.length_range]
  intro i _
  obtain ⟨_, _, _, h⟩ := (draws i).exists_fallsOn ho
  rw [ofDraw?_eq h]
  rfl

theorem Probe.forall_mem_synthesize_iff (ho : o.IsAccepted) {id : AuditId} {draws : Nat → Draw}
    {count : Nat} {P : Probe → Prop} :
    (∀ p ∈ synthesize o id draws count, P p) ↔
      ∀ i < count, ∀ m d a, (draws i).FallsOn o m d a → P (.of id m d a) := by
  simp only [synthesize, List.mem_filterMap, List.mem_range]
  constructor
  · intro h i hi m d a hdraw
    exact h _ ⟨i, hi, ofDraw?_eq hdraw id⟩
  · rintro h p ⟨i, hi, hp⟩
    obtain ⟨m, d, a, hdraw⟩ := (draws i).exists_fallsOn ho
    obtain rfl := Option.some.inj ((ofDraw?_eq hdraw id).symm.trans hp)
    exact h i hi m d a hdraw

/-! ## Reading it back -/

/-- Among matched symbols the slot of this symbol's category names it: it is the first of its
category, or there is none and it is named as what stands in for it. -/
def Fills (symbols : List Symbol) (fallback : String) (s : Symbol) : Prop :=
  Frame.firstOf symbols s.category = some s ∨
    Frame.firstOf symbols s.category = none ∧ s.name = fallback

/-- The text of the three tokens is read as something that names their symbols. -/
def Ontology.ReadsBack (o : Ontology) (m d a : Symbol) : Prop :=
  let symbols := o.matched (m.token ++ d.token ++ a.token)
  Fills symbols "neutral" m ∧ Fills symbols "operational" d ∧ Fills symbols "propose" a

theorem name_slot_eq_iff (ho : o.IsAccepted) (hs : s ∈ o.symbols) (raw fallback : String) :
    ((Frame.firstOf (o.matched raw) s.category).getD
      (defaultSymbol o s.category fallback)).name = s.name ↔ Fills (o.matched raw) fallback s := by
  rw [Fills]
  cases h : Frame.firstOf (o.matched raw) s.category with
  | none => simp [name_defaultSymbol, eq_comm]
  | some t =>
      have hcategory : t.category = s.category := by simpa using List.find?_some h
      have ht : t ∈ o.symbols := Ontology.mem_of_mem_matched (List.mem_of_find?_eq_some h)
      simp only [Option.getD_some, Option.some.injEq, reduceCtorEq, false_and, or_false]
      exact ⟨ho.eq_of_name_eq ht hs hcategory, congrArg Symbol.name⟩

namespace Ontology.IsProbe

variable (h : o.IsProbe m d a)

include h

theorem mem : ∀ s ∈ [m, d, a], s ∈ o.symbols := by
  simpa using ⟨(mem_ofCategory_iff.1 h.mode).1, (mem_ofCategory_iff.1 h.domain).1,
    (mem_ofCategory_iff.1 h.action).1⟩

theorem category : m.category = .mode ∧ d.category = .domain ∧ a.category = .action :=
  ⟨(mem_ofCategory_iff.1 h.mode).2, (mem_ofCategory_iff.1 h.domain).2,
    (mem_ofCategory_iff.1 h.action).2⟩

theorem significant_frame (ho : o.IsAccepted) :
    significant (m.token ++ d.token ++ a.token) = written [m, d, a] := by
  obtain ⟨hm, hd, ha⟩ : m ∈ o.symbols ∧ d ∈ o.symbols ∧ a ∈ o.symbols := by simpa using h.mem
  simp [significant_append, ho.significant_token hm, ho.significant_token hd,
    ho.significant_token ha, written]

theorem tokenize_eq_iff (ho : o.IsAccepted) :
    o.tokenize (m.token ++ d.token ++ a.token) = [.known m, .known d, .known a] ↔
      o.Separates [m, d, a] :=
  tokenize_eq_map_known_iff ho h.mem (h.significant_frame ho)

theorem readsBack_of_separates (ho : o.IsAccepted) (hseparates : o.Separates [m, d, a]) :
    o.ReadsBack m d a := by
  obtain ⟨hm, hd, ha⟩ := h.category
  rw [ReadsBack, matched_eq_of_separates ho h.mem (h.significant_frame ho) hseparates]
  refine ⟨Or.inl ?_, Or.inl ?_, Or.inl ?_⟩ <;> simp [Frame.firstOf, hm, hd, ha]

variable {F : Type} [Scalar F]

/-- The reference interpreter answers a probe as expected exactly if its text reads back. -/
theorem referenceInterpreter_eq_iff (ho : o.IsAccepted) (overlay : Option (Overlay F)) :
    referenceInterpreter F o overlay (m.token ++ d.token ++ a.token) =
        some ⟨m.name, d.name, a.name⟩ ↔ o.ReadsBack m d a := by
  obtain ⟨hm, hd, ha⟩ : m ∈ o.symbols ∧ d ∈ o.symbols ∧ a ∈ o.symbols := by simpa using h.mem
  have hbegins : m.token.toList <+: significant (m.token ++ d.token ++ a.token) := by
    rw [h.significant_frame ho]
    exact List.prefix_append _ _
  obtain ⟨r, hr⟩ : ∃ r, resolve? o overlay (m.token ++ d.token ++ a.token) = some r :=
    exists_resolve?_iff.2 (matched_ne_nil ho hm hbegins)
  obtain ⟨f, hf, rfl⟩ := resolve?_eq_some_iff.1 hr
  obtain ⟨_, rfl⟩ := Frame.parse?_eq_some_iff.1 hf
  obtain ⟨hmode, hdomain, haction⟩ := h.category
  rw [ReadsBack, ← name_slot_eq_iff ho hm, ← name_slot_eq_iff ho hd, ← name_slot_eq_iff ho ha,
    referenceInterpreter, hr, hmode, hdomain, haction]
  simp only [Option.map_some, Resolution.answer, Frame.resolve, symbol_effectiveSlot,
    Option.some.injEq, Answer.mk.injEq]
  rfl

end Ontology.IsProbe

/-! ## Runs -/

section

variable {F : Type} [Scalar F]

namespace Tripwires

variable (ts : Tripwires) (s : TripwireSettings) (now : Instant) (agent : String)
  (interpreter : Interpreter) (probes : List Probe)

theorem failed_run_eq_zero_iff :
    (ts.run s now agent interpreter probes (F := F)).1.failed = 0 ↔
      ∀ p ∈ probes, interpreter p.frame = some p.expected := by
  have hle := List.countP_le_length (p := (·.passed)) (l := probes.map (·.pose interpreter))
  dsimp only [run]
  rw [Nat.sub_eq_zero_iff_le, ← Nat.le_antisymm_iff.trans (and_iff_right hle),
    List.countP_eq_length]
  simp [Probe.pose]

theorem failed_reference_eq_zero_iff (ho : o.IsAccepted) {overlay : Option (Overlay F)}
    {ts : Tripwires} {s : TripwireSettings} {now : Instant} {agent : String} {id : AuditId}
    {draws : Nat → Draw} {count : Nat} :
    (ts.run s now agent (referenceInterpreter F o overlay)
        (Probe.synthesize o id draws count) (F := F)).1.failed = 0 ↔
      ∀ i < count, ∀ m d a, (draws i).FallsOn o m d a → o.ReadsBack m d a := by
  rw [failed_run_eq_zero_iff, Probe.forall_mem_synthesize_iff ho]
  refine forall₂_congr fun i _ => forall₃_congr fun m d a => forall_congr' fun hdraw => ?_
  exact (Ontology.isProbe_iff_exists_draw.2 ⟨_, hdraw⟩).referenceInterpreter_eq_iff ho overlay

/-- What the reference interpreter of an accepted table makes of its own probes.

The text of a probe is cut into its three tokens exactly if they can be told apart. The probe is
answered as expected exactly if its text reads back, which it then does. A run counts each probe
that was asked for, and fails none exactly if each one drawn reads back; so no run fails any exactly
if every probe of the table reads back. Over a table of which no token begins another all pass. -/
theorem reference_passes_probes (ho : o.IsAccepted) (overlay : Option (Overlay F)) :
    let interpreter := referenceInterpreter F o overlay
    let run (ts : Tripwires) (s : TripwireSettings) (now : Instant) (agent : String)
        (id : AuditId) (draws : Nat → Draw) (count : Nat) : ProbeRun F :=
      (ts.run s now agent interpreter (Probe.synthesize o id draws count)).1
    (∀ m d a, o.IsProbe m d a →
      let frame := m.token ++ d.token ++ a.token
      (o.tokenize frame = [.known m, .known d, .known a] ↔ o.Separates [m, d, a]) ∧
      (o.Separates [m, d, a] → o.ReadsBack m d a) ∧
      (interpreter frame = some ⟨m.name, d.name, a.name⟩ ↔ o.ReadsBack m d a)) ∧
    (∀ ts s now agent id draws count,
      let result := run ts s now agent id draws count
      result.passed + result.failed = count ∧
      (result.failed = 0 ↔
        ∀ i < count, ∀ m d a, (draws i).FallsOn o m d a → o.ReadsBack m d a)) ∧
    ((∀ ts s now agent id draws count, (run ts s now agent id draws count).failed = 0) ↔
      ∀ m d a, o.IsProbe m d a → o.ReadsBack m d a) ∧
    (o.PrefixFree → ∀ ts s now agent id draws count,
      (run ts s now agent id draws count).failed = 0) := by
  intro interpreter run
  have hall : (∀ ts s now agent id draws count, (run ts s now agent id draws count).failed = 0) ↔
      ∀ m d a, o.IsProbe m d a → o.ReadsBack m d a := by
    constructor
    · intro h m d a hprobe
      obtain ⟨draw, hdraw⟩ := Ontology.isProbe_iff_exists_draw.1 hprobe
      have hrun := h ∅ ⟨0, 0⟩ .epoch "" .zero (fun _ => draw) 1
      exact (failed_reference_eq_zero_iff ho).1 hrun 0 Nat.one_pos m d a hdraw
    · intro h ts s now agent id draws count
      refine (failed_reference_eq_zero_iff ho).2 fun i _ m d a hdraw => ?_
      exact h m d a (Ontology.isProbe_iff_exists_draw.2 ⟨_, hdraw⟩)
  refine ⟨fun m d a hprobe => ?_, fun ts s now agent id draws count => ⟨?_, ?_⟩, hall,
    fun hfree => hall.2 fun m d a hprobe => ?_⟩
  · exact ⟨hprobe.tokenize_eq_iff ho, hprobe.readsBack_of_separates ho,
      hprobe.referenceInterpreter_eq_iff ho overlay⟩
  · exact (passed_add_failed_run ..).trans (Probe.length_synthesize ho id draws count)
  · exact failed_reference_eq_zero_iff ho
  · exact hprobe.readsBack_of_separates ho (hfree.separates hprobe.mem)

end Tripwires

end

/-- Every run of probes of the standard table passes, of whatever symbols they are. -/
theorem Tripwires.reference_passes_probes_standard :
    Ontology.standard.IsAccepted ∧ Ontology.standard.PrefixFree ∧
      ∀ (ts : Tripwires) (s : TripwireSettings) (now : Instant) (agent : String) (id : AuditId)
        (draws : Nat → Draw) (count : Nat),
        (ts.run s now agent (referenceInterpreter Float .standard none)
          (Probe.synthesize .standard id draws count) (F := Float)).1.failed = 0 := by
  obtain ⟨_, _, _, hfree⟩ :=
    reference_passes_probes (F := Float) Ontology.isAccepted_standard none
  exact ⟨Ontology.isAccepted_standard, Ontology.prefixFree_standard,
    hfree Ontology.prefixFree_standard⟩

/-- The standard table with a token that is written like a mode and a domain. -/
def Ontology.fused : Ontology :=
  .index (standardSymbols ++ [⟨"⊕◊", "strict_financial", "", .modifier⟩])

/-- The fused table is accepted, but its strict, financial probe of an execution is read as one
modifier and the action, and a run that draws it fails. -/
theorem Tripwires.not_forall_reference_passes :
    (¬ ∀ o : Ontology, o.IsAccepted → ∀ m d a, o.IsProbe m d a →
      referenceInterpreter Float o none (m.token ++ d.token ++ a.token) =
        some ⟨m.name, d.name, a.name⟩) ∧
    ¬ ∀ o : Ontology, o.IsAccepted → ∀ (s : TripwireSettings) (draws : Nat → Draw) (count : Nat),
      (Tripwires.run ∅ s .epoch "a" (referenceInterpreter Float o none)
        (Probe.synthesize o .zero draws count) (F := Float)).1.failed = 0 := by
  have accepted : Ontology.fused.IsAccepted := by
    refine ⟨Ontology.fused.symbols, Ontology.ofSymbols_eq_ok_iff.2 ⟨nofun, ?_, ?_, ?_⟩⟩ <;>
      decide +kernel
  constructor
  · intro h
    have hread := h .fused accepted
      ⟨"⊕", "strict", "follow instructions exactly, no deviation", .mode 1⟩
      ⟨"◊", "financial", "payments, ledgers, trading", .domain⟩
      ⟨"▶", "execute", "perform the operation", .action⟩
      ⟨by decide +kernel, by decide +kernel, by decide +kernel⟩
    revert hread
    decide +kernel
  · intro h
    have hrun := h .fused accepted ⟨1, 10⟩ (fun _ => ⟨0, 0, 0⟩) 1
    revert hrun
    decide +kernel

end Mandate
