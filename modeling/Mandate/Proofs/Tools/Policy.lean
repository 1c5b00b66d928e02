import Mandate.Proofs.Frame.Description
import Mandate.Proofs.Tools.Delegation
import Mathlib.Tactic.MkIffOfInductiveProp

/-!
# The tool policy of a frame

Which tools a frame may use is settled by what the overlay binds to its matched symbols and by the
forbidden constraint: `Resolution.allowsTool_iff_permits`. So neither the order of the symbols nor
what stands in for a missing one counts.
-/

namespace Mandate

variable {F : Type} {o : Ontology} {overlay : Option (Overlay F)} {v v' : Overlay F}
  {raw raw' tool : String} {symbols symbols' : List Symbol} {s : Symbol}

/-! ## What is bound to symbols -/

/-- The tool's name is of a pattern that the overlay binds to one of the symbols, on the given side
of the binding. -/
def Overlay.Binds (v : Overlay F) (side : ToolBinding → List String) (symbols : List Symbol)
    (tool : String) : Prop :=
  ∃ s ∈ symbols, ∃ override, v.get? s.token = some override ∧
    ∃ p ∈ side override.tools, Glob.Expands p.toList tool.toList

variable {side : ToolBinding → List String}

theorem exists_mem_bindings_iff :
    (∃ p ∈ (bindings overlay symbols).flatMap side, Glob.isMatch p tool = true) ↔
      ∃ v ∈ overlay, v.Binds side symbols tool := by
  cases overlay with
  | none => simp [bindings]
  | some v =>
      simp only [bindings, Overlay.Binds, List.mem_flatMap, List.mem_filterMap, Option.bind_some,
        Option.map_eq_some_iff, Option.mem_def, Option.some.injEq, Glob.isMatch,
        Glob.accepts_iff_expands]
      constructor
      · rintro ⟨p, ⟨_, ⟨s, hs, override, hget, rfl⟩, hp⟩, hmatch⟩
        exact ⟨v, rfl, s, hs, override, hget, p, hp, hmatch⟩
      · rintro ⟨_, rfl, s, hs, override, hget, p, hp, hmatch⟩
        exact ⟨p, ⟨_, ⟨s, hs, override, hget, rfl⟩, hp⟩, hmatch⟩

theorem Overlay.binds_congr (h : ∀ s ∈ symbols, v.get? s.token = v'.get? s.token) :
    v.Binds side symbols tool ↔ v'.Binds side symbols tool := by
  refine exists_congr fun s => and_congr_right fun hs => ?_
  rw [h s hs]

theorem Overlay.binds_congr_mem (h : ∀ s, s ∈ symbols ↔ s ∈ symbols') :
    v.Binds side symbols tool ↔ v.Binds side symbols' tool := by
  simp only [Binds, h]

/-! ## The declared policy -/

/-- The frame may use the tool. No pattern that is bound to one of its symbols blocks it, it has no
side effect that the forbidden constraint rules out, and where an overlay is in force a pattern
bound to one of the symbols allows it. -/
@[mk_iff]
structure Ontology.Permits (o : Ontology) (overlay : Option (Overlay F)) (raw tool : String) :
    Prop where
  unblocked : ¬ ∃ v ∈ overlay, v.Binds ToolBinding.block (o.matched raw) tool
  harmless : ¬ (o.Forbids raw ∧ HasSideEffect tool)
  allowed : overlay = none ∨ ∃ v ∈ overlay, v.Binds ToolBinding.allow (o.matched raw) tool

theorem Ontology.permits_congr_matched (h : ∀ s, s ∈ o.matched raw ↔ s ∈ o.matched raw') :
    o.Permits overlay raw tool ↔ o.Permits overlay raw' tool := by
  simp only [permits_iff, Overlay.binds_congr_mem h, Forbids, h]

/-- What an overlay says of other symbols does not count. -/
theorem Ontology.permits_congr_overlay
    (h : ∀ s ∈ o.matched raw, v.get? s.token = v'.get? s.token) :
    o.Permits (some v) raw tool ↔ o.Permits (some v') raw tool := by
  simp [permits_iff, Overlay.binds_congr h]

/-! ## Which symbols count -/

theorem Ontology.mem_matched_of_tokens
    (h : ∀ token, token ∈ (o.matched raw).map (·.token) → token ∈ (o.matched raw').map (·.token))
    (hs : s ∈ o.matched raw) : s ∈ o.matched raw' := by
  obtain ⟨s', hs', htoken⟩ := List.mem_map.1 (h s.token (List.mem_map_of_mem hs))
  have hlookup := lookup?_of_mem_matched hs'
  rw [htoken, lookup?_of_mem_matched hs] at hlookup
  exact Option.some.inj hlookup ▸ hs'

/-- What stands in for a symbol is not written in the frame. -/
theorem token_ne_of_defaulted (ho : o.IsAccepted) {category : Category} {fallback : String}
    (h : (effectiveSlot o overlay category fallback
      (Frame.firstOf (o.matched raw) category)).defaulted = true) :
    ∀ s ∈ o.matched raw, s.token ≠ (effectiveSlot o overlay category fallback
      (Frame.firstOf (o.matched raw) category)).symbol.token := by
  intro s hs
  have hmem := Ontology.mem_of_mem_matched hs
  cases hfirst : Frame.firstOf (o.matched raw) category with
  | some _ =>
      rw [hfirst] at h
      cases h
  | none =>
      rw [symbol_effectiveSlot, Option.getD_none]
      unfold defaultSymbol
      cases hfind : o.find? category fallback with
      | none => exact ho.token_ne hmem
      | some d =>
          intro htoken
          have hsame := ho.eq_of_token_eq hmem (List.mem_of_find?_eq_some hfind) htoken
          have hcategory : s.category = category := hsame ▸ (Ontology.named_of_find? hfind).1
          simpa [hcategory] using List.find?_eq_none.1 hfirst s hs

namespace Resolution

variable [Scalar F] {r r' : Resolution F}

theorem exists_mem_blockedTools_iff (h : resolve? o overlay raw = some r) :
    (∃ p ∈ r.blockedTools, Glob.isMatch p tool = true) ↔
      (∃ v ∈ overlay, v.Binds ToolBinding.block (o.matched raw) tool) ∨
        o.Forbids raw ∧ HasSideEffect tool := by
  have hforbidden := isForbidden_iff h
  obtain ⟨f, hf, rfl⟩ := resolve?_eq_some_iff.1 h
  have hvetoed : (∃ p ∈ if f.hasConstraint "forbidden" then forbiddenTools else [],
      Glob.isMatch p tool = true) ↔ o.Forbids raw ∧ HasSideEffect tool := by
    rw [← hforbidden, hasSideEffect_iff, isForbidden, Frame.resolve]
    cases f.hasConstraint "forbidden" <;> simp
  rw [← hvetoed, ← exists_mem_bindings_iff, ← Frame.symbols_of_parse? hf]
  simp only [Frame.resolve, Identity.mem_distinct, List.mem_append, or_and_right, exists_or]

theorem exists_mem_allowedTools_iff (h : resolve? o overlay raw = some r) :
    (∃ p ∈ r.allowedTools, Glob.isMatch p tool = true) ↔
      ∃ v ∈ overlay, v.Binds ToolBinding.allow (o.matched raw) tool := by
  obtain ⟨f, hf, rfl⟩ := resolve?_eq_some_iff.1 h
  rw [← exists_mem_bindings_iff, ← Frame.symbols_of_parse? hf]
  simp only [Frame.resolve, Identity.mem_distinct]

theorem overlay_eq_none_iff (h : resolve? o overlay raw = some r) :
    r.overlay = none ↔ overlay = none := by
  obtain ⟨f, hf, rfl⟩ := resolve?_eq_some_iff.1 h
  exact Option.map_eq_none_iff

theorem allowsTool_iff_of_resolve? (h : resolve? o overlay raw = some r) :
    r.allowsTool tool = true ↔ o.Permits overlay raw tool := by
  have hblocked : (∀ p ∈ r.blockedTools, Glob.isMatch p tool = false) ↔
      ¬ ∃ p ∈ r.blockedTools, Glob.isMatch p tool = true := by
    simp
  rw [allowsTool_iff, hblocked, exists_mem_blockedTools_iff h, exists_mem_allowedTools_iff h,
    overlay_eq_none_iff h, not_or, and_assoc, Ontology.permits_iff]

theorem tokens_of_resolve? (h : resolve? o overlay raw = some r) :
    r.frame.tokens = (o.matched raw).map (·.token) := by
  rw [Frame.tokens, symbols_of_resolve? h]

theorem token_ne_of_mem_slots (ho : o.IsAccepted) (h : resolve? o overlay raw = some r)
    {slot : EffectiveSymbol F} (hslot : slot ∈ [r.mode, r.domain, r.action])
    (hdefaulted : slot.defaulted = true) : ∀ s ∈ o.matched raw, s.token ≠ slot.symbol.token := by
  obtain ⟨f, hf, rfl⟩ := resolve?_eq_some_iff.1 h
  obtain ⟨_, rfl⟩ := Frame.parse?_eq_some_iff.1 hf
  simp only [List.mem_cons, List.not_mem_nil, or_false] at hslot
  rcases hslot with rfl | rfl | rfl
  · exact token_ne_of_defaulted ho hdefaulted
  · exact token_ne_of_defaulted ho hdefaulted
  · exact token_ne_of_defaulted ho hdefaulted

/-- A tool may be used exactly if the declared policy permits it. So frames with the same tokens may
use the same tools, in whatever order and however often the tokens stand in them, and whatever an
overlay says of the symbols that stand in for missing ones changes nothing. -/
theorem allowsTool_iff_permits (o : Ontology) (ho : o.IsAccepted) (overlay : Option (Overlay F))
    (raw : String) (r : Resolution F) (h : resolve? o overlay raw = some r) :
    (∀ tool, r.allowsTool tool = true ↔ o.Permits overlay raw tool) ∧
    (∀ (raw' : String) (r' : Resolution F), resolve? o overlay raw' = some r' →
      (∀ token, token ∈ r'.frame.tokens ↔ token ∈ r.frame.tokens) →
      ∀ tool, r'.allowsTool tool = r.allowsTool tool) ∧
    ∀ v ∈ overlay, ∀ slot ∈ [r.mode, r.domain, r.action], slot.defaulted = true →
      ∀ override, ∃ r', resolve? o (some (v.withOverride slot.symbol.token override)) raw = some r' ∧
        ∀ tool, r'.allowsTool tool = r.allowsTool tool := by
  refine ⟨fun tool => allowsTool_iff_of_resolve? h, fun raw' r' h' htokens tool => ?_,
    fun v hv slot hslot hdefaulted override => ?_⟩
  · rw [tokens_of_resolve? h, tokens_of_resolve? h'] at htokens
    rw [Bool.eq_iff_iff, allowsTool_iff_of_resolve? h, allowsTool_iff_of_resolve? h']
    exact Ontology.permits_congr_matched fun s =>
      ⟨Ontology.mem_matched_of_tokens fun token => (htokens token).1,
        Ontology.mem_matched_of_tokens fun token => (htokens token).2⟩
  · obtain rfl := Option.mem_def.1 hv
    have hmatched : o.matched raw ≠ [] := exists_resolve?_iff.1 ⟨r, h⟩
    obtain ⟨r', hr'⟩ : ∃ r', resolve? o (some (v.withOverride slot.symbol.token override)) raw =
        some r' := exists_resolve?_iff.2 hmatched
    refine ⟨r', hr', fun tool => ?_⟩
    rw [Bool.eq_iff_iff, allowsTool_iff_of_resolve? h, allowsTool_iff_of_resolve? hr']
    refine Ontology.permits_congr_overlay fun s hs => ?_
    exact Keyed.get?_insert_of_ne _ (token_ne_of_mem_slots ho h hslot hdefaulted s hs) override

/-- What is bound to the domain allows and blocks. The mode is missing, and what is bound to the one
that stands in for it would allow everything but does not count. -/
theorem allowsTool_iff_permits_ledger :
    let o := Ontology.standard
    let v : Overlay Float := (((Overlay.named "ledger").allowTools "◊" ["ledger_*"]).blockTools "◊"
      ["*_admin"]).allowTools "⊙" ["*"]
    (o.IsAccepted ∧ v.check o = none) ∧
    ∃ r r', resolve? o (some v) "◊▷" = some r ∧ resolve? o (some v) "▷◊ ◊" = some r' ∧
      (∀ token, token ∈ r'.frame.tokens ↔ token ∈ r.frame.tokens) ∧ r.mode.defaulted = true ∧
      o.Permits (some v) "◊▷" "ledger_read" ∧ ¬ o.Permits (some v) "◊▷" "ledger_admin" ∧
      ¬ o.Permits (some v) "◊▷" "mail_send" ∧ (∀ tool, r'.allowsTool tool = r.allowsTool tool) ∧
      ∀ override, ∃ r'',
        resolve? o (some (v.withOverride r.mode.symbol.token override)) "◊▷" = some r'' ∧
          ∀ tool, r''.allowsTool tool = r.allowsTool tool := by
  intro o v
  have first : (resolve? o (some v) "◊▷").map (fun r => (r.frame.tokens, r.mode.defaulted,
      ["ledger_read", "ledger_admin", "mail_send"].map r.allowsTool)) =
        some (["◊", "▷"], true, [true, false, false]) := by
    decide +kernel
  have second : (resolve? o (some v) "▷◊ ◊").map (·.frame.tokens) = some ["▷", "◊", "◊"] := by
    decide +kernel
  obtain ⟨r, hr, hfirst⟩ := Option.map_eq_some_iff.1 first
  obtain ⟨r', hr', htokens'⟩ := Option.map_eq_some_iff.1 second
  simp only [Prod.mk.injEq, List.map_cons, List.map_nil, List.cons.injEq, and_true] at hfirst
  obtain ⟨htokens, hdefaulted, hread, hadmin, hsend⟩ := hfirst
  have same : ∀ token, token ∈ r'.frame.tokens ↔ token ∈ r.frame.tokens := by
    intro token
    simp only [htokens, htokens', List.mem_cons, List.not_mem_nil, or_false, or_self]
    exact or_comm
  obtain ⟨hpermits, hsame, hdefault⟩ :=
    allowsTool_iff_permits o Ontology.isAccepted_standard (some v) "◊▷" r hr
  refine ⟨⟨Ontology.isAccepted_standard, by decide +kernel⟩, r, r', hr, hr', same, hdefaulted,
    (hpermits _).1 hread, ?_, ?_, hsame _ r' hr' same,
    hdefault v rfl r.mode List.mem_cons_self hdefaulted⟩
  · exact mt (hpermits _).2 (Bool.eq_false_iff.1 hadmin)
  · exact mt (hpermits _).2 (Bool.eq_false_iff.1 hsend)

end Resolution

end Mandate
