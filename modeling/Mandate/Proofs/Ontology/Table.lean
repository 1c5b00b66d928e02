import Mandate.Binary64
import Mandate.Proofs.Frame.Description
import Mandate.Validation

/-!
# Well-formed tables

A list of symbols is accepted exactly if it is a table: no two symbols share their token, their name
within a category or their strength as modes, and the required symbols are there. Any other list is
refused for the first symbol that offends against those before it, and only if none does for a
required symbol that is missing. The main statement is `ofSymbols_sound`.
-/

namespace Mandate.Ontology

variable {symbols earlier later : List Symbol} {s t : Symbol} {e e' : Error} {o : Ontology}

/-! ## The symbol that offends -/

/-- A symbol offends against those before it, by the first of the four checks that it fails. -/
inductive Offends (earlier : List Symbol) (s : Symbol) : Error → Prop where
  | emptyToken (h : s.token = "") : Offends earlier s (.emptyToken s.name)
  | duplicateToken (h : s.token ≠ "") (hshared : ∃ t ∈ earlier, t.token = s.token) :
      Offends earlier s (.duplicateToken s.token)
  | duplicateName (h : s.token ≠ "") (hnew : ∀ t ∈ earlier, t.token ≠ s.token)
      (hshared : ∃ t ∈ earlier, t.category = s.category ∧ t.name = s.name) :
      Offends earlier s (.duplicateName s.category s.name)
  | sharedStrength {t : Symbol} {strength : UInt8} (h : s.token ≠ "")
      (hnew : ∀ t ∈ earlier, t.token ≠ s.token)
      (hnamed : ∀ t ∈ earlier, ¬ (t.category = s.category ∧ t.name = s.name)) (ht : t ∈ earlier)
      (htstrength : t.kind = .mode strength) (hstrength : s.kind = .mode strength) :
      Offends earlier s (.sharedStrength t.name s.name strength)

theorem rival?_eq_some_iff {r : Symbol × UInt8} :
    rival? earlier s = some r ↔
      s.kind = .mode r.2 ∧ earlier.find? (fun t => t.kind = .mode r.2) = some r.1 := by
  obtain ⟨t, strength⟩ := r
  unfold rival?
  cases hkind : s.kind with
  | mode n =>
      simp only [Option.map_eq_some_iff, Prod.mk.injEq, Kind.mode.injEq]
      constructor
      · rintro ⟨_, hfind, rfl, rfl⟩
        exact ⟨rfl, hfind⟩
      · rintro ⟨rfl, hfind⟩
        exact ⟨t, hfind, rfl, rfl⟩
  | _ => simp

theorem offends_of_fault? (h : fault? earlier s = some e) : Offends earlier s e := by
  simp only [fault?, List.any_eq_true, decide_eq_true_eq, Symbol.isNamed, Bool.and_eq_true] at h
  split at h
  next hempty =>
    cases h
    exact .emptyToken hempty
  next hempty =>
    split at h
    next hshared =>
      cases h
      exact .duplicateToken hempty hshared
    next hnew =>
      have hnew : ∀ t ∈ earlier, t.token ≠ s.token := fun t ht heq => hnew ⟨t, ht, heq⟩
      split at h
      next hshared =>
        cases h
        exact .duplicateName hempty hnew hshared
      next hnamed =>
        obtain ⟨r, hr, rfl⟩ := Option.map_eq_some_iff.1 h
        obtain ⟨hstrength, hfind⟩ := rival?_eq_some_iff.1 hr
        exact .sharedStrength hempty hnew (fun t ht heq => hnamed ⟨t, ht, heq⟩)
          (List.mem_of_find?_eq_some hfind) (by simpa using List.find?_some hfind) hstrength

theorem Offends.fault?_ne_none (h : Offends earlier s e) : fault? earlier s ≠ none := by
  rw [ne_eq, fault?_eq_none_iff]
  rintro ⟨hempty, hclash⟩
  cases h with
  | emptyToken h => exact hempty h
  | duplicateToken _ hshared =>
      obtain ⟨t, ht, heq⟩ := hshared
      exact hclash t ht (Or.inl heq)
  | duplicateName _ _ hshared =>
      obtain ⟨t, ht, heq⟩ := hshared
      exact hclash t ht (Or.inr (Or.inl heq))
  | sharedStrength _ _ _ ht htstrength hstrength =>
      exact hclash _ ht (Or.inr (Or.inr ⟨_, htstrength, hstrength⟩))

-- Two modes before the symbol could both share its strength, were it not that they would clash.
theorem Offends.unique (hearlier : earlier.Pairwise fun t s => ¬ Clash t s)
    (h : Offends earlier s e) (h' : Offends earlier s e') : e = e' := by
  cases h with
  | emptyToken hempty => cases h' <;> first | rfl | contradiction
  | duplicateToken hempty hshared =>
      obtain ⟨t, ht, heq⟩ := hshared
      cases h' with
      | emptyToken h => exact absurd h hempty
      | duplicateToken => rfl
      | duplicateName _ hnew => exact absurd heq (hnew t ht)
      | sharedStrength _ hnew => exact absurd heq (hnew t ht)
  | duplicateName hempty hnew hshared =>
      obtain ⟨t, ht, heq⟩ := hshared
      cases h' with
      | emptyToken h => exact absurd h hempty
      | duplicateToken _ hshared =>
          obtain ⟨u, hu, hsame⟩ := hshared
          exact absurd hsame (hnew u hu)
      | duplicateName => rfl
      | sharedStrength _ _ hnamed => exact absurd heq (hnamed t ht)
  | @sharedStrength t n hempty hnew hnamed ht htstrength hstrength =>
      cases h' with
      | emptyToken h => exact absurd h hempty
      | duplicateToken _ hshared =>
          obtain ⟨u, hu, hsame⟩ := hshared
          exact absurd hsame (hnew u hu)
      | duplicateName _ _ hshared =>
          obtain ⟨u, hu, hsame⟩ := hshared
          exact absurd hsame (hnamed u hu)
      | @sharedStrength u m _ _ _ hu hustrength hstrength' =>
          obtain rfl : n = m := by simpa using hstrength.symm.trans hstrength'
          have hsame : t = u := by
            by_contra hne
            exact hearlier.forall ht hu hne (Or.inr (Or.inr ⟨n, htstrength, hustrength⟩))
          rw [hsame]

theorem fault?_eq_some_iff (hearlier : earlier.Pairwise fun t s => ¬ Clash t s) :
    fault? earlier s = some e ↔ Offends earlier s e := by
  refine ⟨offends_of_fault?, fun h => ?_⟩
  obtain ⟨e', he'⟩ := Option.ne_none_iff_exists'.1 h.fault?_ne_none
  rw [he', (offends_of_fault? he').unique hearlier h]

theorem firstFault?_eq_some_iff :
    firstFault? earlier later = some e ↔
      ∃ before s after, later = before ++ s :: after ∧ firstFault? earlier before = none ∧
        fault? (earlier ++ before) s = some e := by
  induction later generalizing earlier with
  | nil => simp [firstFault?]
  | cons t later ih =>
      rw [firstFault?, Option.orElse_eq_some, ih]
      constructor
      · rintro (hfault | ⟨hfault, before, s, after, rfl, hbefore, hs⟩)
        · exact ⟨[], t, later, rfl, rfl, by simpa using hfault⟩
        · refine ⟨t :: before, s, after, rfl, ?_, by simpa using hs⟩
          rw [firstFault?, Option.orElse_eq_none]
          exact ⟨hfault, hbefore⟩
      · rintro ⟨before, s, after, heq, hbefore, hs⟩
        cases before with
        | nil =>
            obtain ⟨rfl, -⟩ := List.cons.inj heq
            exact Or.inl (by simpa using hs)
        | cons u before =>
            obtain ⟨rfl, rfl⟩ := List.cons.inj heq
            rw [firstFault?, Option.orElse_eq_none] at hbefore
            exact Or.inr ⟨hbefore.1, before, s, after, rfl, hbefore.2, by simpa using hs⟩

/-- No symbol of the list offends against those before it. -/
def Unoffending (symbols : List Symbol) : Prop :=
  ∀ before s after e, symbols = before ++ s :: after → ¬ Offends before s e

theorem firstFault?_eq_none_iff_unoffending :
    firstFault? [] symbols = none ↔ Unoffending symbols := by
  constructor
  · rintro h before s after e rfl hoffends
    obtain ⟨e', he'⟩ := Option.ne_none_iff_exists'.1 hoffends.fault?_ne_none
    -- Either the symbols before this one have a fault, or this one is the first that has.
    cases hbefore : firstFault? [] before with
    | none =>
        have hfirst := firstFault?_eq_some_iff.2 ⟨before, s, after, rfl, hbefore, he'⟩
        rw [h] at hfirst
        cases hfirst
    | some d =>
        obtain ⟨before', t, after', rfl, hnone, hsome⟩ := firstFault?_eq_some_iff.1 hbefore
        have hfirst : firstFault? [] (before' ++ t :: after' ++ s :: after) = some d :=
          firstFault?_eq_some_iff.2 ⟨before', t, after' ++ s :: after, by simp, hnone, hsome⟩
        rw [h] at hfirst
        cases hfirst
  · intro h
    refine Option.eq_none_iff_forall_ne_some.2 fun e he => ?_
    obtain ⟨before, s, after, heq, -, hsome⟩ := firstFault?_eq_some_iff.1 he
    exact h before s after e heq (offends_of_fault? hsome)

theorem firstFault?_eq_some_iff_offends :
    firstFault? [] symbols = some e ↔
      ∃ before s after, symbols = before ++ s :: after ∧ Unoffending before ∧
        Offends before s e := by
  rw [firstFault?_eq_some_iff]
  refine exists_congr fun before => exists_congr fun s => exists_congr fun after =>
    and_congr_right fun _ => ?_
  rw [← firstFault?_eq_none_iff_unoffending, List.nil_append]
  exact and_congr_right fun hnone => fault?_eq_some_iff (firstFault?_eq_none_iff.1 hnone).2.2

theorem missing?_eq_some_iff :
    missing? symbols = some e ↔
      ∃ before r after, required = before ++ r :: after ∧
        (∀ q ∈ before, ∃ s ∈ symbols, s.category = q.1 ∧ s.name = q.2) ∧
        (¬ ∃ s ∈ symbols, s.category = r.1 ∧ s.name = r.2) ∧ e = .missing r.1 r.2 := by
  simp only [missing?, Option.map_eq_some_iff, List.find?_eq_some_iff_append, Bool.not_eq_true',
    Bool.not_not, List.any_eq_true, List.any_eq_false, Symbol.isNamed, Bool.and_eq_true,
    decide_eq_true_eq]
  constructor
  · rintro ⟨r, ⟨hr, before, after, heq, hbefore⟩, rfl⟩
    refine ⟨before, r, after, heq, hbefore, ?_, rfl⟩
    rintro ⟨s, hs, hnamed⟩
    exact hr s hs hnamed
  · rintro ⟨before, r, after, heq, hbefore, hr, rfl⟩
    exact ⟨r, ⟨fun s hs hnamed => hr ⟨s, hs, hnamed⟩, before, after, heq, hbefore⟩, rfl⟩

/-- Why a list of symbols is refused: it is empty, its first offending symbol offends, or none does
and of the required symbols this is the first that is missing. -/
inductive Refuses (symbols : List Symbol) : Error → Prop where
  | empty (h : symbols = []) : Refuses symbols .empty
  | offence {before after : List Symbol} {s : Symbol} {e : Error}
      (h : symbols.map Symbol.stripped = before ++ s :: after) (hbefore : Unoffending before)
      (hs : Offends before s e) : Refuses symbols e
  | missing {before after : List (Category × String)} {r : Category × String} (h : symbols ≠ [])
      (hall : Unoffending (symbols.map Symbol.stripped))
      (hrequired : required = before ++ r :: after)
      (hbefore : ∀ q ∈ before, ∃ s ∈ symbols, s.category = q.1 ∧ s.name = q.2)
      (hr : ¬ ∃ s ∈ symbols, s.category = r.1 ∧ s.name = r.2) :
      Refuses symbols (.missing r.1 r.2)

theorem exists_mem_stripped_iff {r : Category × String} :
    (∃ s ∈ symbols.map Symbol.stripped, s.category = r.1 ∧ s.name = r.2) ↔
      ∃ s ∈ symbols, s.category = r.1 ∧ s.name = r.2 := by
  simp only [List.mem_map, exists_exists_and_eq_and]
  exact Iff.rfl

theorem ofSymbols_eq_error_iff : ofSymbols symbols = .error e ↔ Refuses symbols e := by
  cases symbols with
  | nil =>
      rw [ofSymbols, List.isEmpty_nil, if_pos rfl, Except.error.injEq]
      constructor
      · rintro rfl
        exact .empty rfl
      · intro h
        cases h with
        | empty => rfl
        | offence h => simp at h
        | missing h => exact absurd rfl h
  | cons s symbols =>
      have hofSymbols : ofSymbols (s :: symbols) = .error e ↔
          firstFault? [] ((s :: symbols).map Symbol.stripped) = some e ∨
            firstFault? [] ((s :: symbols).map Symbol.stripped) = none ∧
              missing? ((s :: symbols).map Symbol.stripped) = some e := by
        rw [← Option.orElse_eq_some, ofSymbols, List.isEmpty_cons, if_neg Bool.false_ne_true]
        dsimp only
        split
        next d hd => rw [hd, Except.error.injEq, Option.some.injEq]
        next hnone =>
          rw [hnone]
          constructor
          · intro h
            cases h
          · intro h
            cases h
      rw [hofSymbols, firstFault?_eq_some_iff_offends, firstFault?_eq_none_iff_unoffending,
        missing?_eq_some_iff]
      simp only [exists_mem_stripped_iff]
      constructor
      · rintro (⟨before, t, after, heq, hbefore, ht⟩ |
          ⟨hall, before, r, after, hrequired, hbefore, hr, rfl⟩)
        · exact .offence heq hbefore ht
        · exact .missing (List.cons_ne_nil _ _) hall hrequired hbefore hr
      · intro h
        cases h with
        | empty h => cases h
        | offence heq hbefore ht => exact Or.inl ⟨_, _, _, heq, hbefore, ht⟩
        | missing _ hall hrequired hbefore hr =>
            exact Or.inr ⟨hall, _, _, _, hrequired, hbefore, hr, rfl⟩

/-! ## Well-formed tables -/

/-- The symbols make up a table once their tokens are stripped. -/
structure IsTable (symbols : List Symbol) : Prop where
  nonempty : symbols ≠ []
  tokens_nonempty : ∀ s ∈ symbols, significant s.token ≠ []
  tokens_distinct : symbols.Pairwise fun s t => significant s.token ≠ significant t.token
  names_distinct : symbols.Pairwise fun s t => (s.category, s.name) ≠ (t.category, t.name)
  strengths_distinct : symbols.Pairwise fun s t => ∀ n, s.kind = .mode n → t.kind ≠ .mode n
  complete : ∀ r ∈ required, ∃ s ∈ symbols, s.category = r.1 ∧ s.name = r.2

theorem token_stripped_eq_iff : s.stripped.token = t.stripped.token ↔
    significant s.token = significant t.token :=
  String.ofList_inj

theorem not_clash_stripped_iff : ¬ Clash s.stripped t.stripped ↔
    significant s.token ≠ significant t.token ∧
      (s.category, s.name) ≠ (t.category, t.name) ∧
        ∀ n, s.kind = .mode n → t.kind ≠ .mode n := by
  rw [Clash, not_or, not_or, token_stripped_eq_iff, Ne, Ne, Prod.mk.injEq]
  refine and_congr_right fun _ => and_congr_right fun _ => ?_
  rw [not_exists]
  exact forall_congr' fun n => not_and

theorem missing?_eq_none_iff :
    missing? symbols = none ↔ ∀ r ∈ required, ∃ s ∈ symbols, s.category = r.1 ∧ s.name = r.2 := by
  simp only [missing?, Option.map_eq_none_iff, List.find?_eq_none, Bool.not_eq_true',
    Bool.not_eq_false, List.any_eq_true, Symbol.isNamed, Bool.and_eq_true, decide_eq_true_eq]

theorem exists_ofSymbols_eq_ok_iff : (∃ o, ofSymbols symbols = .ok o) ↔ IsTable symbols := by
  have htokens : (∀ s ∈ symbols.map Symbol.stripped, s.token ≠ "") ↔
      ∀ s ∈ symbols, significant s.token ≠ [] := by
    simp [Symbol.stripped]
  simp only [ofSymbols_eq_ok_iff, exists_and_left, exists_eq, and_true, firstFault?_eq_none_iff,
    htokens, missing?_eq_none_iff, exists_mem_stripped_iff, List.pairwise_map,
    not_clash_stripped_iff, List.pairwise_and_iff, List.not_mem_nil, false_implies, implies_true,
    true_and]
  constructor
  · rintro ⟨hne, ⟨hempty, htoken, hname, hstrength⟩, hrequired⟩
    exact ⟨hne, hempty, htoken, hname, hstrength, hrequired⟩
  · intro h
    exact ⟨h.nonempty, ⟨h.tokens_nonempty, h.tokens_distinct, h.names_distinct,
      h.strengths_distinct⟩, h.complete⟩

/-! ## What an accepted table holds -/

theorem symbols_of_ofSymbols (h : ofSymbols symbols = .ok o) :
    o.symbols = symbols.map Symbol.stripped := by
  obtain ⟨-, -, -, rfl⟩ := ofSymbols_eq_ok_iff.1 h
  rfl

theorem stripped_stripped (s : Symbol) : s.stripped.stripped = s.stripped := by
  rw [Symbol.stripped, Symbol.stripped, significant_ofList_significant]

/-- The symbols of an accepted table make it up again. -/
theorem ofSymbols_symbols (h : ofSymbols symbols = .ok o) : ofSymbols o.symbols = .ok o := by
  obtain ⟨hne, hfault, hmissing, rfl⟩ := ofSymbols_eq_ok_iff.1 h
  have hagain : (symbols.map Symbol.stripped).map Symbol.stripped =
      symbols.map Symbol.stripped := by
    rw [List.map_map]
    exact List.map_congr_left fun s _ => stripped_stripped s
  refine ofSymbols_eq_ok_iff.2 ⟨by simpa using hne, ?_⟩
  simp only [symbols_index, hagain]
  exact ⟨hfault, hmissing, trivial⟩

theorem find?_eq_some_iff_mem {p : Symbol → Bool}
    (hunique : ∀ t ∈ symbols, s ∈ symbols → p t = true → p s = true → t = s) :
    symbols.find? p = some s ↔ s ∈ symbols ∧ p s = true := by
  constructor
  · intro h
    exact ⟨List.mem_of_find?_eq_some h, List.find?_some h⟩
  · rintro ⟨hs, hp⟩
    obtain ⟨t, ht⟩ := Option.isSome_iff_exists.1 (List.find?_isSome.2 ⟨s, hs, hp⟩)
    rw [ht, hunique t (List.mem_of_find?_eq_some ht) hs (List.find?_some ht) hp]

theorem IsAccepted.lookup?_eq_some_iff (h : o.IsAccepted) {token : String} :
    o.lookup? token = some s ↔ s ∈ o.symbols ∧ s.token = token := by
  constructor
  · exact fun hs => ⟨mem_of_lookup? hs, token_of_lookup? hs⟩
  · rintro ⟨hs, rfl⟩
    obtain ⟨t, ht⟩ := exists_lookup? hs
    rw [ht, h.eq_of_token_eq (mem_of_lookup? ht) hs (token_of_lookup? ht)]

theorem IsAccepted.find?_eq_some_iff (h : o.IsAccepted) {category : Category} {name : String} :
    o.find? category name = some s ↔ s ∈ o.symbols ∧ s.category = category ∧ s.name = name := by
  rw [find?, find?_eq_some_iff_mem, Symbol.isNamed, Bool.and_eq_true, decide_eq_true_iff,
    decide_eq_true_iff]
  simp only [Symbol.isNamed, Bool.and_eq_true, decide_eq_true_iff]
  exact fun t ht hs hnamed hs' =>
    h.eq_of_name_eq ht hs (hnamed.1.trans hs'.1.symm) (hnamed.2.trans hs'.2.symm)

/-- The symbol that stands in a slot is the table's own: none is made up for an empty one. -/
theorem IsAccepted.slot_mem (h : o.IsAccepted) {matched : List Symbol}
    (hmatched : ∀ s ∈ matched, s ∈ o.symbols) {r : Category × String} (hr : r ∈ required) :
    let s := (Frame.firstOf matched r.1).getD (defaultSymbol o r.1 r.2)
    s ∈ o.symbols ∧ s.category = r.1 := by
  cases hslot : Frame.firstOf matched r.1 with
  | some s =>
      exact ⟨hmatched s (List.mem_of_find?_eq_some hslot), by simpa using List.find?_some hslot⟩
  | none =>
      obtain ⟨s, hs⟩ := h.exists_required hr
      obtain ⟨hmem, hcategory, -⟩ := h.find?_eq_some_iff.1 hs
      have hdefault : defaultSymbol o r.1 r.2 = s := by
        simp only [defaultSymbol, hs, Option.getD_some]
      rw [Option.getD_none, hdefault]
      exact ⟨hmem, hcategory⟩

section Resolved

variable {F : Type} [Scalar F] {raw : String} {f : Frame F}

theorem IsAccepted.slots_resolve (h : o.IsAccepted) (hf : Frame.parse? o raw = some f)
    (overlay : Option (Overlay F)) :
    let r := f.resolve o overlay
    (∀ slot ∈ [r.mode, r.domain, r.action], slot.symbol ∈ o.symbols) ∧
      ∃ n, r.modeStrength? = some n := by
  obtain ⟨-, rfl⟩ := Frame.parse?_eq_some_iff.1 hf
  have hmatched : ∀ s ∈ o.matched raw, s ∈ o.symbols := fun s => mem_of_mem_matched
  have hmode := h.slot_mem hmatched (r := (.mode, "neutral")) (by decide)
  have hdomain := h.slot_mem hmatched (r := (.domain, "operational")) (by decide)
  have haction := h.slot_mem hmatched (r := (.action, "propose")) (by decide)
  simp only [List.forall_mem_cons, List.not_mem_nil, false_implies, implies_true, and_true,
    Frame.resolve, Frame.ofParts, Resolution.modeStrength?, symbol_effectiveSlot]
  exact ⟨⟨hmode.1, hdomain.1, haction.1⟩, Symbol.exists_strength_of_mode _ hmode.2⟩

/-! ## Building a table -/

/-- What a table is that was built from some symbols. -/
structure IsBuiltFrom (F : Type) [Scalar F] (o : Ontology) (symbols : List Symbol) : Prop where
  symbols_eq : o.symbols = symbols.map Symbol.stripped
  lookup : ∀ token s, o.lookup? token = some s ↔ s ∈ o.symbols ∧ s.token = token
  find : ∀ category name s, o.find? category name = some s ↔
    s ∈ o.symbols ∧ s.category = category ∧ s.name = name
  again : ofSymbols o.symbols = .ok o
  /-- No slot of a resolved frame holds a symbol that was made up. -/
  resolved : ∀ raw (f : Frame F), Frame.parse? o raw = some f → ∀ overlay,
    let r := f.resolve o overlay
    (∀ slot ∈ [r.mode, r.domain, r.action], slot.symbol ∈ o.symbols) ∧
      ∃ n, r.modeStrength? = some n
  /-- Between two frames it is always their strengths that are compared. -/
  compared : ∀ raw raw' (f f' : Frame F), Frame.parse? o raw = some f →
    Frame.parse? o raw' = some f' → ∀ overlay,
      let parent := f.resolve o overlay
      let child := f'.resolve o overlay
      ∃ p c, parent.modeStrength? = some p ∧ child.modeStrength? = some c ∧
        Rule.isWeakened parent child = decide (p < c)

theorem isBuiltFrom_of_ofSymbols (h : ofSymbols symbols = .ok o) : o.IsBuiltFrom F symbols := by
  have haccepted : o.IsAccepted := ⟨symbols, h⟩
  refine ⟨symbols_of_ofSymbols h, fun _ _ => haccepted.lookup?_eq_some_iff,
    fun _ _ _ => haccepted.find?_eq_some_iff, ofSymbols_symbols h,
    fun raw f hf => haccepted.slots_resolve hf, fun raw raw' f f' hf hf' overlay => ?_⟩
  obtain ⟨-, p, hp⟩ := haccepted.slots_resolve hf overlay
  obtain ⟨-, c, hc⟩ := haccepted.slots_resolve hf' overlay
  exact ⟨p, c, hp, hc, by rw [Rule.isWeakened, hp, hc]⟩

/-- A list of symbols is accepted exactly if it makes up a table, and refused for the first reason
there is: an offending symbol, or else a required one that is missing. What was built from a list
holds its symbols under their tokens and under their names, can be built from its own symbols again,
and has a mode with a strength for every frame. -/
theorem ofSymbols_sound (symbols : List Symbol) :
    ((∃ o, ofSymbols symbols = .ok o) ↔ IsTable symbols) ∧
      (∀ e, ofSymbols symbols = .error e ↔ Refuses symbols e) ∧
      ∀ o, ofSymbols symbols = .ok o → o.IsBuiltFrom F symbols :=
  ⟨exists_ofSymbols_eq_ok_iff, fun _ => ofSymbols_eq_error_iff,
    fun _ => isBuiltFrom_of_ofSymbols⟩

end Resolved

/-- A blank or a variation selector beside a token makes no other token of it. A frame without a
mode is neutral. -/
theorem ofSymbols_sound_spaced :
    let symbols : List Symbol :=
      [⟨"⊕\ufe0f", "strict", "", .mode 1⟩, ⟨" ⊙", "neutral", "", .mode 2⟩,
       ⟨"⊗", "forbidden", "", .mode 4⟩, ⟨"⛔", "forbidden", "", .constraint 4⟩,
       ⟨"◎", "operational", "", .domain⟩, ⟨"▶", "execute", "", .action⟩,
       ⟨"△", "propose", "", .action⟩]
    let o : Ontology := .index (symbols.map Symbol.stripped)
    ofSymbols symbols = .ok o ∧ o.lookup? "⊕" = some ⟨"⊕", "strict", "", .mode 1⟩ ∧
      (∃ f : Frame Float, Frame.parse? o "▶" = some f ∧
        (f.resolve o none).mode.symbol ∈ o.symbols) ∧
      ofSymbols (symbols ++ [⟨"⊕", "legal", "", .domain⟩]) = .error (.duplicateToken "⊕") := by
  intro symbols o
  have accepted : ofSymbols symbols = .ok o :=
    ofSymbols_eq_ok_iff.2 ⟨nofun, by decide +kernel, by decide +kernel, rfl⟩
  obtain ⟨-, -, hbuilt⟩ := ofSymbols_sound (F := Float) symbols
  let again : Symbol := ⟨"⊕", "legal", "", .domain⟩
  obtain ⟨-, hrefused, -⟩ := ofSymbols_sound (F := Float) (symbols ++ [again])
  have built := hbuilt o accepted
  obtain ⟨f, hf⟩ : ∃ f : Frame Float, Frame.parse? o "▶" = some f :=
    ⟨_, Frame.parse?_eq_some_iff.2 ⟨by decide +kernel, rfl⟩⟩
  have unoffending : Unoffending o.symbols :=
    firstFault?_eq_none_iff_unoffending.1 (by decide +kernel)
  refine ⟨accepted, (built.lookup _ _).2 (by decide +kernel), ⟨f, hf, ?_⟩,
    (hrefused _).2 (@Refuses.offence _ o.symbols [] again _ ?_ unoffending ?_)⟩
  · exact (built.resolved "▶" f hf none).1 _ List.mem_cons_self
  · decide +kernel
  · exact .duplicateToken (by decide) (by decide +kernel)

end Mandate.Ontology
