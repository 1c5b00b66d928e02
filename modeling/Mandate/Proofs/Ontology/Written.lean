import Mandate.Proofs.Frame.Matched
import Mandate.Proofs.Ontology.Tokens

/-!
# Frames written from tokens

Symbols are written by putting their tokens behind one another. The tokenizer takes such a frame
apart as it was written exactly when the tokens separate, and over a table of which no token begins
another they always do.
-/

namespace Mandate.Ontology

variable {o : Ontology} {s : Symbol} {symbols : List Symbol} {raw : String}

/-- The text of the symbols' tokens. -/
def written (symbols : List Symbol) : List Char :=
  symbols.flatMap (·.token.toList)

/-- The tokens can be told apart: no token of the table that begins what is written from one of them
on is longer than that one. -/
def Separates (o : Ontology) : List Symbol → Prop
  | [] => True
  | s :: rest =>
    (∀ t ∈ o.symbols, t.token.toList <+: written (s :: rest) →
      t.token.toList.length ≤ s.token.toList.length) ∧ o.Separates rest

/-- No token of the table begins another. -/
def PrefixFree (o : Ontology) : Prop :=
  ∀ s ∈ o.symbols, ∀ t ∈ o.symbols, s.token.toList <+: t.token.toList → s = t

instance (o : Ontology) : Decidable o.PrefixFree :=
  inferInstanceAs (Decidable (∀ s ∈ o.symbols, ∀ t ∈ o.symbols, _ → _))

theorem PrefixFree.separates (h : o.PrefixFree) (hs : ∀ s ∈ symbols, s ∈ o.symbols) :
    o.Separates symbols := by
  induction symbols with
  | nil => exact trivial
  | cons s rest ih =>
      obtain ⟨hmem, hrest⟩ := List.forall_mem_cons.1 hs
      refine ⟨fun t ht hbegins => ?_, ih hrest⟩
      have hself : s.token.toList <+: written (s :: rest) := List.prefix_append _ _
      -- Of two beginnings of one text one begins the other.
      rcases List.prefix_or_prefix_of_prefix hbegins hself with h' | h'
      · exact h'.length_le
      · obtain rfl := h s hmem t ht h'
        exact Nat.le_refl _

theorem isCut_written_iff (hs : ∀ s ∈ symbols, s ∈ o.symbols) :
    o.IsCut (written symbols) (symbols.map .known) ↔ o.Separates symbols := by
  induction symbols with
  | nil => exact iff_of_true (isCut_nil_iff.2 rfl) trivial
  | cons s rest ih =>
      obtain ⟨hmem, hrest⟩ := List.forall_mem_cons.1 hs
      rw [List.map_cons, isCut_cons_iff, Separates, ← ih hrest]
      constructor
      · rintro ⟨text, htext, hfits, hcut⟩
        obtain rfl : written rest = text := List.append_cancel_left htext
        exact ⟨hfits.longest, hcut⟩
      · rintro ⟨hlongest, hcut⟩
        exact ⟨written rest, rfl, ⟨hmem, List.prefix_append _ _, hlongest⟩, hcut⟩

theorem isCut_tokenize (ho : o.IsAccepted) (raw : String) :
    o.IsCut (significant raw) (o.tokenize raw) :=
  isCut_tokensAfter ho 0 (significant raw)

/-- A frame that is written from symbols of the table is read as them exactly if their tokens can be
told apart. -/
theorem tokenize_eq_map_known_iff (ho : o.IsAccepted) (hs : ∀ s ∈ symbols, s ∈ o.symbols)
    (hraw : significant raw = written symbols) :
    o.tokenize raw = symbols.map .known ↔ o.Separates symbols := by
  have hcut := isCut_tokenize ho raw
  rw [← isCut_written_iff hs, ← hraw]
  constructor
  · intro h
    rwa [h] at hcut
  · exact hcut.unique ho

theorem matched_eq_of_separates (ho : o.IsAccepted) (hs : ∀ s ∈ symbols, s ∈ o.symbols)
    (hraw : significant raw = written symbols) (h : o.Separates symbols) :
    o.matched raw = symbols := by
  rw [matched, (tokenize_eq_map_known_iff ho hs hraw).2 h, List.filterMap_map]
  exact List.filterMap_some

/-- A frame that a token of the table begins is read. -/
theorem matched_ne_nil (ho : o.IsAccepted) (hs : s ∈ o.symbols)
    (hbegins : s.token.toList <+: significant raw) : o.matched raw ≠ [] := by
  have hcut := isCut_tokenize ho raw
  have hne : s.token.toList ≠ [] := by simpa using ho.token_ne hs
  rw [matched]
  cases htokens : o.tokenize raw with
  | nil =>
      rw [htokens, isCut_nil_iff] at hcut
      rw [hcut] at hbegins
      exact absurd (List.prefix_nil.1 hbegins) hne
  | cons t ts =>
      rw [htokens, isCut_cons_iff] at hcut
      obtain ⟨_, _, hfits, _⟩ := hcut
      cases t with
      | known => exact List.cons_ne_nil _ _
      | unknown => exact absurd hbegins (hfits s hs)

theorem prefixFree_standard : standard.PrefixFree := by
  decide +kernel

end Mandate.Ontology
