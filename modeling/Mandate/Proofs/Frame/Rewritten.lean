import Mandate.Proofs.Frame.Confidence
import Mandate.Proofs.Frame.Description
import Mandate.Proofs.Ontology.Noise
import Mandate.Proofs.Ontology.Written

/-!
# Frames written again

What a frame was read as can be written from its tokens alone. It is read as the same again if the
tokens can be told apart: always over a table of which no token begins another, and over any table
if nothing in the frame was unrecognized (`Frame.rereads_written`).
-/

namespace Mandate

variable {o : Ontology} {raw : String}

/-! ## Writing symbols -/

namespace Ontology

variable {symbols : List Symbol}

theorem isIgnorable_of_mem_written (ho : o.IsAccepted) (hs : ∀ s ∈ symbols, s ∈ o.symbols) :
    ∀ c ∈ written symbols, isIgnorable c = false := by
  intro c hc
  obtain ⟨s, hmem, hc⟩ := List.mem_flatMap.1 hc
  exact isIgnorable_of_mem_token ho (hs s hmem) hc

theorem spaced_self (cs : List Char) : Spaced cs cs := by
  induction cs with
  | nil => exact .done
  | cons c cs ih => exact .keep c ih

/-- Symbols whose tokens can be told apart are read from what is written of them, whatever ignorable
characters are put in. -/
theorem tokenize_of_spaced (ho : o.IsAccepted) (hs : ∀ s ∈ symbols, s ∈ o.symbols)
    (hseparates : o.Separates symbols) (hraw : Spaced (written symbols) raw.toList) :
    o.tokenize raw = symbols.map .known := by
  have htext := significant_eq_of_spaced hraw (isIgnorable_of_mem_written ho hs)
  exact (tokenize_eq_map_known_iff ho hs htext).2 hseparates

theorem separates_of_recognized (ho : o.IsAccepted)
    (h : (o.tokenize raw).filterMap Token.unknown? = []) : o.Separates (o.matched raw) := by
  have hknown : o.tokenize raw = (o.matched raw).map .known := by
    rw [matched]
    generalize o.tokenize raw = ts at h
    induction ts with
    | nil => rfl
    | cons t ts ih =>
        cases t with
        | known s => exact congrArg (_ :: ·) (ih h)
        | unknown c => cases h
  have hcut := isCut_tokenize ho raw
  rw [hknown] at hcut
  have htext : written (o.matched raw) = significant raw := by
    rw [← hcut.text, List.flatMap_map]
    rfl
  exact (isCut_written_iff fun _ => mem_of_mem_matched).1 (htext ▸ hcut)

end Ontology

/-! ## Reading them again -/

namespace Frame

variable {F : Type} [Scalar F]

/-- Written from its matched tokens alone the frame is read as the same again, with nothing left
unrecognized and in full confidence. -/
def Rereads (f : Frame F) (o : Ontology) : Prop :=
  ∃ g, parse? o (String.join f.tokens) = some g ∧ g.SameReading f ∧ g.unrecognized = [] ∧
    g.confidence = 1.0

theorem mem_of_mem_symbols {f : Frame F} (hf : parse? o raw = some f) :
    ∀ s ∈ f.symbols, s ∈ o.symbols := by
  rw [symbols_of_parse? hf]
  exact fun _ => Ontology.mem_of_mem_matched

theorem rereads_of_separates {f : Frame Float} (ho : o.IsAccepted) (hf : parse? o raw = some f)
    (hseparates : o.Separates f.symbols) : f.Rereads o := by
  have hsymbols : f.symbols = o.matched raw := symbols_of_parse? hf
  have hwritten : (String.join f.tokens).toList = Ontology.written f.symbols := by
    rw [String.toList_join, tokens, List.flatMap_map]
    rfl
  have htokens : o.tokenize (String.join f.tokens) = f.symbols.map .known :=
    Ontology.tokenize_of_spaced ho (mem_of_mem_symbols hf) hseparates
      (hwritten ▸ Ontology.spaced_self _)
  have hmatched : o.matched (String.join f.tokens) = f.symbols := by
    rw [Ontology.matched, htokens, List.filterMap_map]
    exact List.filterMap_some
  have hunknown : (o.tokenize (String.join f.tokens)).filterMap Token.unknown? = [] := by
    rw [htokens, List.filterMap_map]
    exact List.filterMap_eq_nil_iff.2 fun _ _ => rfl
  obtain ⟨g, hg, hsame⟩ := exists_sameReading hf (hmatched.trans hsymbols)
  obtain ⟨hne, rfl⟩ := parse?_eq_some_iff.1 hg
  refine ⟨_, hg, hsame, ?_, ?_⟩
  · simp only [ofParts, hunknown, List.map_nil]
  · simp only [ofParts, hunknown, List.length_nil]
    exact confidenceOf_zero (List.length_pos_iff.2 hne) _ _ _

/-- Over a table of which no token begins another, as the standard one is, symbols are read from
what is written of them, whatever ignorable characters are put in, and every frame that reads is
read again from its matched tokens. Over any other table, every frame of which all was recognized
is. -/
theorem rereads_written (o : Ontology) (ho : o.IsAccepted) :
    Ontology.standard.PrefixFree ∧
    (o.PrefixFree →
      (∀ (symbols : List Symbol) (raw : String), (∀ s ∈ symbols, s ∈ o.symbols) →
        Ontology.Spaced (Ontology.written symbols) raw.toList →
        o.tokenize raw = symbols.map .known) ∧
      ∀ (raw : String) (f : Frame Float), parse? o raw = some f → f.Rereads o) ∧
    ∀ (raw : String) (f : Frame Float), parse? o raw = some f → f.unrecognized = [] →
      f.Rereads o := by
  refine ⟨Ontology.prefixFree_standard, fun hfree => ⟨fun symbols raw hs hraw => ?_,
    fun raw f hf => ?_⟩, fun raw f hf hrecognized => ?_⟩
  · exact Ontology.tokenize_of_spaced ho hs (hfree.separates hs) hraw
  · exact rereads_of_separates ho hf (hfree.separates (mem_of_mem_symbols hf))
  · refine rereads_of_separates ho hf ?_
    rw [symbols_of_parse? hf]
    obtain ⟨_, rfl⟩ := parse?_eq_some_iff.1 hf
    exact Ontology.separates_of_recognized ho (List.map_eq_nil_iff.1 hrecognized)

/-- Symbols written with a blank and a variation selector, a frame with characters that no one
knows, and a frame of tokens that begin one another. -/
theorem rereads_written_nested :
    let o := Ontology.standard
    let symbols : List Symbol :=
      [⟨"⊕", "strict", "follow instructions exactly, no deviation", .mode 1⟩,
        ⟨"⚙", "technical", "code, infrastructure, systems", .domain⟩,
        ⟨"▶", "execute", "perform the operation", .action⟩]
    (o.IsAccepted ∧ o.PrefixFree ∧ (∀ s ∈ symbols, s ∈ o.symbols) ∧
      Ontology.Spaced (Ontology.written symbols) "⊕ ⚙\ufe0f▶".toList ∧
      o.tokenize "⊕ ⚙\ufe0f▶" = symbols.map .known) ∧
    (∃ f : Frame Float, parse? o "to: ⊕⚙?▶" = some f ∧ f.Rereads o) ∧
    Ontology.nested.IsAccepted ∧
    ∃ f : Frame Float, parse? Ontology.nested "ab c⊕aab" = some f ∧ f.unrecognized = [] ∧
      f.Rereads Ontology.nested := by
  intro o symbols
  have spaced : Ontology.Spaced (Ontology.written symbols) "⊕ ⚙\ufe0f▶".toList :=
    .keep '⊕' (.put (by decide) (.keep '⚙' (.put (by decide) (.keep '▶' .done))))
  have members : ∀ s ∈ symbols, s ∈ o.symbols := by decide +kernel
  have reads : parse? (F := Float) o "to: ⊕⚙?▶" ≠ none := mt parse?_eq_none_iff.1 (by decide +kernel)
  have recognized : (parse? (F := Float) Ontology.nested "ab c⊕aab").map (·.unrecognized) = some [] := by
    decide +kernel
  obtain ⟨f, hf⟩ := Option.ne_none_iff_exists'.1 reads
  obtain ⟨g, hg, hnothing⟩ := Option.map_eq_some_iff.1 recognized
  obtain ⟨hfree, hprefixFree, _⟩ := rereads_written o Ontology.isAccepted_standard
  obtain ⟨hwritten, hreads⟩ := hprefixFree hfree
  obtain ⟨_, _, hrecognized⟩ := rereads_written Ontology.nested Ontology.isAccepted_nested
  exact ⟨⟨Ontology.isAccepted_standard, hfree, members, spaced, hwritten symbols _ members spaced⟩,
    ⟨f, hf, hreads _ f hf⟩, Ontology.isAccepted_nested, g, hg, hnothing,
    hrecognized _ g hg hnothing⟩

end Frame
end Mandate
