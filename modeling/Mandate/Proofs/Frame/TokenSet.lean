import Mandate.Binary64
import Mandate.Proofs.Document.Digits
import Mandate.Proofs.Frame.Description
import Mathlib.Data.List.Sort

/-!
# What the identity of a frame depends on

The distinct tokens in increasing order are the normal form of a set of tokens, and each token can
be told from what follows it by the length that it stands behind. So two lists of tokens are hashed
from the same bytes exactly if they have the same tokens, and the identities of two frames agree
exactly if their symbols do, or if the hash itself collides (`identity_eq_iff`).
-/

namespace Mandate

namespace Identity

/-! ## Distinct texts in order -/

-- The texts that are kept so far are listed from the last to the first.
theorem pairwise_eraseReps_loop {a : String} {l acc : List String} (h : (a :: l).Pairwise (· ≤ ·))
    (hacc : (a :: acc).Pairwise (· > ·)) :
    (List.eraseRepsBy.loop (· == ·) a l acc).Pairwise (· < ·) := by
  induction l generalizing a acc with
  | nil =>
      rw [List.eraseRepsBy.loop, List.pairwise_reverse]
      exact hacc
  | cons b l ih =>
      obtain ⟨ha, hl⟩ := List.pairwise_cons.1 h
      rw [List.eraseRepsBy.loop]
      split
      next => exact ih (h.sublist (by simp)) hacc
      next hne =>
        have hlt : a < b :=
          Std.lt_of_le_of_ne (ha b List.mem_cons_self) (by simpa using hne)
        refine ih hl (List.pairwise_cons.2 ⟨fun c hc => ?_, hacc⟩)
        rcases List.mem_cons.1 hc with rfl | hc
        · exact hlt
        · exact String.lt_trans ((List.pairwise_cons.1 hacc).1 c hc) hlt

theorem pairwise_distinct (tokens : List String) : (distinct tokens).Pairwise (· < ·) := by
  have htrans (a b c : String) (hab : decide (a ≤ b) = true) (hbc : decide (b ≤ c) = true) :
      decide (a ≤ c) = true :=
    decide_eq_true (String.le_trans (of_decide_eq_true hab) (of_decide_eq_true hbc))
  have htotal (a b : String) : (decide (a ≤ b) || decide (b ≤ a)) = true := by
    simpa using String.le_total a b
  have hsorted : (tokens.mergeSort fun a b => a ≤ b).Pairwise (· ≤ ·) := by
    simpa using List.pairwise_mergeSort htrans htotal tokens
  unfold distinct
  cases h : tokens.mergeSort fun a b => a ≤ b with
  | nil => exact .nil
  | cons a l =>
      rw [h] at hsorted
      exact pairwise_eraseReps_loop hsorted (List.pairwise_singleton ..)

theorem distinct_eq_iff {xs ys : List String} :
    distinct xs = distinct ys ↔ ∀ t, t ∈ xs ↔ t ∈ ys := by
  constructor
  · intro h t
    rw [← mem_distinct, h, mem_distinct]
  · intro h
    refine (pairwise_distinct xs).eq_of_mem_iff (pairwise_distinct ys) fun t => ?_
    rw [mem_distinct, mem_distinct, h]

/-! ## Texts behind their lengths -/

theorem toList_toUTF8 (s : String) : s.toUTF8.toList = s.toByteArray.data.toList := by
  rw [ByteArray.toList, Hex.toList_loop]
  rfl

theorem toList_toUTF8_inj {s t : String} : s.toUTF8.toList = t.toUTF8.toList ↔ s = t := by
  rw [toList_toUTF8, toList_toUTF8, Array.toList_inj, ← ByteArray.ext_iff, String.toByteArray_inj]

theorem length_toUTF8 (s : String) : s.toUTF8.toList.length = s.utf8ByteSize := by
  rw [toList_toUTF8]
  rfl

theorem lengthBytes_inj {m n : Nat} (hm : m < UInt32.size) (hn : n < UInt32.size)
    (h : lengthBytes m = lengthBytes n) : m = n := by
  simp only [lengthBytes, List.cons.injEq, and_true, ← UInt8.toNat_inj, UInt8.toNat_ofNat',
    Nat.shiftRight_eq_div_pow] at h
  have hsize : UInt32.size = 4294967296 := rfl
  omega

/-- A framed text can be told from what follows it. -/
theorem framed_append_inj {s t : String} (hs : s.utf8ByteSize < UInt32.size)
    (ht : t.utf8ByteSize < UInt32.size) {xs ys : List UInt8}
    (h : framed s ++ xs = framed t ++ ys) : s = t ∧ xs = ys := by
  simp only [framed, List.append_assoc] at h
  obtain ⟨hlength, hrest⟩ := List.append_inj h rfl
  rw [length_toUTF8, length_toUTF8] at hlength
  have hsize : s.utf8ByteSize = t.utf8ByteSize := lengthBytes_inj hs ht hlength
  obtain ⟨hbytes, hxs⟩ := List.append_inj hrest (by rw [length_toUTF8, length_toUTF8, hsize])
  exact ⟨toList_toUTF8_inj.1 hbytes, hxs⟩

theorem flatMap_framed_inj {xs ys : List String} (hxs : ∀ t ∈ xs, t.utf8ByteSize < UInt32.size)
    (hys : ∀ t ∈ ys, t.utf8ByteSize < UInt32.size) (h : xs.flatMap framed = ys.flatMap framed) :
    xs = ys := by
  induction xs generalizing ys with
  | nil =>
      cases ys with
      | nil => rfl
      | cons t ys => cases h
  | cons s xs ih =>
      cases ys with
      | nil => cases h
      | cons t ys =>
          obtain ⟨hs, hxs'⟩ := List.forall_mem_cons.1 hxs
          obtain ⟨ht, hys'⟩ := List.forall_mem_cons.1 hys
          rw [List.flatMap_cons, List.flatMap_cons] at h
          obtain ⟨rfl, hrest⟩ := framed_append_inj hs ht h
          rw [ih hxs' hys' hrest]

/-- Two lists are hashed from the same bytes exactly if they have the same tokens. -/
theorem feed_inj {xs ys : List String} (hxs : ∀ t ∈ xs, t.utf8ByteSize < UInt32.size)
    (hys : ∀ t ∈ ys, t.utf8ByteSize < UInt32.size) :
    feed xs = feed ys ↔ ∀ t, t ∈ xs ↔ t ∈ ys := by
  rw [← distinct_eq_iff]
  refine ⟨flatMap_framed_inj (fun t ht => hxs t (mem_distinct.1 ht))
    (fun t ht => hys t (mem_distinct.1 ht)), fun h => ?_⟩
  rw [feed, feed, h]

theorem ofTokens_eq_iff {xs ys : List String} :
    ofTokens xs = ofTokens ys ↔ Blake3.hash (feed xs) = Blake3.hash (feed ys) :=
  Identity.mk.injEq .. ▸ Iff.rfl

end Identity

/-! ## Frames -/

/-- Two different inputs have one hash. -/
def Blake3.Collides (x y : List UInt8) : Prop :=
  x ≠ y ∧ hash x = hash y

namespace Frame

variable {F : Type} [Scalar F] {o : Ontology} {raw raw' : String} {f g : Frame F}

theorem identity_of_parse? (h : parse? o raw = some f) : f.identity = .ofTokens f.tokens := by
  obtain ⟨_, rfl⟩ := parse?_eq_some_iff.1 h
  rfl

/-- A matched token stands for one symbol, whatever the table. -/
theorem eq_of_token_eq (hf : parse? o raw = some f) (hg : parse? o raw' = some g) {s t : Symbol}
    (hs : s ∈ f.symbols) (ht : t ∈ g.symbols) (h : s.token = t.token) : s = t := by
  rw [symbols_of_parse? hf] at hs
  rw [symbols_of_parse? hg] at ht
  have hlookup := Ontology.lookup?_of_mem_matched hs
  rw [h, Ontology.lookup?_of_mem_matched ht] at hlookup
  exact (Option.some.inj hlookup).symm

theorem mem_of_token_mem (hf : parse? o raw = some f) (hg : parse? o raw' = some g)
    (h : ∀ t, t ∈ f.tokens ↔ t ∈ g.tokens) {s : Symbol} (hs : s ∈ f.symbols) : s ∈ g.symbols := by
  obtain ⟨s', hs', htoken⟩ := List.mem_map.1 ((h s.token).1 (List.mem_map_of_mem hs))
  rwa [eq_of_token_eq hf hg hs hs' htoken.symm]

/-- Two frames have the same tokens exactly if they have the same symbols. -/
theorem mem_tokens_congr_iff (hf : parse? o raw = some f) (hg : parse? o raw' = some g) :
    (∀ t, t ∈ f.tokens ↔ t ∈ g.tokens) ↔ ∀ s, s ∈ f.symbols ↔ s ∈ g.symbols := by
  constructor
  · intro h s
    exact ⟨mem_of_token_mem hf hg h, mem_of_token_mem hg hf fun t => (h t).symm⟩
  · intro h t
    simp only [tokens, List.mem_map, h]

/-- Two lists of tokens shorter than `2 ^ 32` bytes are hashed from the same bytes exactly if they
have the same tokens. So over any table two frames with the same matched symbols have one identity,
in whatever order, how often and among what noise these stand; and if two frames with tokens that
short have one identity, they have the same matched symbols, or the hash collides on the bytes of
their tokens. -/
theorem identity_eq_iff :
    (∀ xs ys : List String, (∀ t ∈ xs ++ ys, t.utf8ByteSize < UInt32.size) →
      (Identity.feed xs = Identity.feed ys ↔ ∀ t, t ∈ xs ↔ t ∈ ys)) ∧
    ∀ (o : Ontology) (raw raw' : String) (f g : Frame F), parse? o raw = some f →
      parse? o raw' = some g →
      ((∀ s, s ∈ f.symbols ↔ s ∈ g.symbols) → f.identity = g.identity) ∧
      ((∀ s ∈ f.symbols ++ g.symbols, s.token.utf8ByteSize < UInt32.size) →
        (f.identity = g.identity ↔ (∀ s, s ∈ f.symbols ↔ s ∈ g.symbols) ∨
          Blake3.Collides (Identity.feed f.tokens) (Identity.feed g.tokens))) := by
  refine ⟨fun xs ys hshort => ?_, fun o raw raw' f g hf hg => ?_⟩
  · obtain ⟨hxs, hys⟩ := List.forall_mem_append.1 hshort
    exact Identity.feed_inj hxs hys
  rw [identity_of_parse? hf, identity_of_parse? hg, ← mem_tokens_congr_iff hf hg]
  refine ⟨fun h => ?_, fun hshort => ?_⟩
  · rw [Identity.ofTokens_eq_iff, Identity.feed, Identity.distinct_eq_iff.2 h, Identity.feed]
  · obtain ⟨hfs, hgs⟩ := List.forall_mem_append.1 hshort
    have hf' : ∀ t ∈ f.tokens, t.utf8ByteSize < UInt32.size := List.forall_mem_map.2 hfs
    have hg' : ∀ t ∈ g.tokens, t.utf8ByteSize < UInt32.size := List.forall_mem_map.2 hgs
    rw [← Identity.feed_inj hf' hg', Identity.ofTokens_eq_iff, Blake3.Collides]
    by_cases h : Identity.feed f.tokens = Identity.feed g.tokens
    · simp [h]
    · simp [h]

/-- A frame, the same one in another order with a symbol twice and with noise, and one that names
another agent. -/
theorem identity_eq_iff_reordered :
    ∃ f g h : Frame Float,
      (parse? .standard "⊕◊▶β" = some f ∧ parse? .standard "to β: ▶ ⊕◊⊕" = some g ∧
        parse? .standard "⊕◊▶γ" = some h ∧ (∀ s, s ∈ f.symbols ↔ s ∈ g.symbols) ∧
        ∀ s ∈ f.symbols ++ h.symbols, s.token.utf8ByteSize < UInt32.size) ∧
      f.identity = g.identity ∧
      (f.identity = h.identity →
        Blake3.Collides (Identity.feed f.tokens) (Identity.feed h.tokens)) ∧
      Identity.feed ["⊕", "◊", "▶"] = Identity.feed ["▶", "⊕", "◊", "◊"] := by
  have reads (raw : String) (tokens : List String)
      (htokens : (Ontology.standard.matched raw).map (·.token) = tokens) (hne : tokens ≠ []) :
      ∃ f : Frame Float, parse? .standard raw = some f ∧ f.tokens = tokens :=
    exists_parse?_of_tokens htokens hne
  obtain ⟨f, hf, hft⟩ := reads "⊕◊▶β" ["⊕", "◊", "▶", "β"] (by decide +kernel) nofun
  obtain ⟨g, hg, hgt⟩ := reads "to β: ▶ ⊕◊⊕" ["β", "▶", "⊕", "◊", "⊕"] (by decide +kernel) nofun
  obtain ⟨h, hh, hht⟩ := reads "⊕◊▶γ" ["⊕", "◊", "▶", "γ"] (by decide +kernel) nofun
  have agree (xs ys : List String) (hxs : ∀ t ∈ xs, t ∈ ys) (hys : ∀ t ∈ ys, t ∈ xs) (t : String) :
      t ∈ xs ↔ t ∈ ys := ⟨hxs t, hys t⟩
  have same : ∀ s, s ∈ f.symbols ↔ s ∈ g.symbols := by
    rw [← mem_tokens_congr_iff hf hg, hft, hgt]
    exact agree _ _ (by decide) (by decide)
  have other : ¬ ∀ s, s ∈ f.symbols ↔ s ∈ h.symbols := by
    rw [← mem_tokens_congr_iff hf hh, hft, hht]
    exact fun hall => absurd ((hall "β").1 (by decide)) (by decide)
  have short : ∀ s ∈ f.symbols ++ h.symbols, s.token.utf8ByteSize < UInt32.size := by
    have htokens : ∀ t ∈ f.tokens ++ h.tokens, t.utf8ByteSize < UInt32.size := by
      rw [hft, hht]
      decide +kernel
    rw [tokens, tokens, ← List.map_append] at htokens
    exact List.forall_mem_map.1 htokens
  obtain ⟨bytes, frames⟩ := identity_eq_iff (F := Float)
  refine ⟨f, g, h, ⟨hf, hg, hh, same, short⟩, (frames _ _ _ f g hf hg).1 same, fun heq => ?_,
    (bytes _ _ (by decide +kernel)).2 (agree _ _ (by decide) (by decide))⟩
  rcases ((frames _ _ _ f h hf hh).2 short).1 heq with hsame | hcollides
  · exact absurd hsame other
  · exact hcollides

end Frame
end Mandate
