import Mandate.Ontology.Tokens
import Mandate.Proofs.Ontology.Accepted
import Mandate.Proofs.Ontology.Index

/-!
# Cutting a frame into tokens

A cut of a text is a list of tokens whose texts are the text, each token the longest that the table
has at its place. The search by falling length finds that token, and no token if there is none
(`hit?_eq_some_iff`, `hit?_eq_none_iff`). A text has one cut only, and the tokenizer finds it
(`tokenize_eq_iff_isCut`).
-/

namespace Mandate.Ontology

variable {o : Ontology} {cs : List Char} {s : Symbol} {t : Token} {ts : List Token}

/-! ## The longest token -/

/-- The symbol's token begins the text, and no token of the table that does is longer. -/
structure IsLongest (o : Ontology) (cs : List Char) (s : Symbol) : Prop where
  mem : s ∈ o.symbols
  begins : s.token.toList <+: cs
  longest : ∀ t ∈ o.symbols, t.token.toList <+: cs →
    t.token.toList.length ≤ s.token.toList.length

theorem lookup?_take_of_begins (hs : s ∈ o.symbols) (h : s.token.toList <+: cs) :
    ∃ t, o.lookup? (String.ofList (cs.take s.token.toList.length)) = some t := by
  rw [← List.prefix_iff_eq_take.1 h, String.ofList_toList]
  exact exists_lookup? hs

theorem length_le_of_begins (hs : s ∈ o.symbols) (h : s.token.toList <+: cs) :
    s.token.toList.length ≤ min o.width cs.length :=
  Nat.le_min.2 ⟨length_le_width hs, h.length_le⟩

theorem IsLongest.unique (ho : o.IsAccepted) {s t : Symbol} (hs : o.IsLongest cs s)
    (ht : o.IsLongest cs t) : s = t := by
  have hlength : s.token.toList.length = t.token.toList.length :=
    Nat.le_antisymm (ht.longest s hs.mem hs.begins) (hs.longest t ht.mem ht.begins)
  have htoken : s.token.toList = t.token.toList :=
    (List.prefix_of_prefix_length_le hs.begins ht.begins (Nat.le_of_eq hlength)).eq_of_length
      hlength
  exact ho.eq_of_token_eq hs.mem ht.mem (String.toList_inj.1 htoken)

/-! ## Looking for the longest token -/

theorem hitUpTo?_eq_none_iff {bound : Nat} :
    o.hitUpTo? cs bound = none ↔
      ∀ n, 0 < n → n ≤ bound → o.lookup? (String.ofList (cs.take n)) = none := by
  fun_induction hitUpTo? o cs bound with
  | case1 => exact iff_of_true rfl fun n hpos hle => absurd hpos (Nat.not_lt.2 hle)
  | case2 bound t ht =>
      refine iff_of_false nofun fun h => ?_
      cases ht.symm.trans (h (bound + 1) (Nat.succ_pos _) (Nat.le_refl _))
  | case3 bound hnone ih =>
      rw [ih]
      constructor
      · intro h n hpos hle
        rcases Nat.le_succ_iff.1 hle with hle | rfl
        · exact h n hpos hle
        · exact hnone
      · exact fun h n hpos hle => h n hpos (Nat.le_succ_of_le hle)

/-- The length that is found is the greatest within the bound at which a token ends. -/
theorem lookup?_of_hitUpTo? {bound n : Nat} (h : o.hitUpTo? cs bound = some (s, n)) :
    n ≤ bound ∧ o.lookup? (String.ofList (cs.take n)) = some s ∧
      ∀ m, n < m → m ≤ bound → o.lookup? (String.ofList (cs.take m)) = none := by
  fun_induction hitUpTo? o cs bound with
  | case1 => cases h
  | case2 bound t ht =>
      obtain ⟨rfl, rfl⟩ := Prod.mk.inj (Option.some.inj h)
      exact ⟨Nat.le_refl _, ht, fun m hlt hle => absurd hlt (Nat.not_lt.2 hle)⟩
  | case3 bound hnone ih =>
      obtain ⟨hle, hfound, hlonger⟩ := ih h
      refine ⟨Nat.le_succ_of_le hle, hfound, fun m hlt hle => ?_⟩
      rcases Nat.le_succ_iff.1 hle with hle | rfl
      · exact hlonger m hlt hle
      · exact hnone

theorem lookup?_of_hit? {n : Nat} (h : o.hit? cs = some (s, n)) :
    o.lookup? s.token = some s := by
  obtain ⟨-, hfound, -⟩ := lookup?_of_hitUpTo? h
  rwa [token_of_lookup? hfound]

theorem isLongest_of_hit? {n : Nat} (h : o.hit? cs = some (s, n)) :
    o.IsLongest cs s ∧ n = s.token.toList.length := by
  obtain ⟨hle, hfound, hlonger⟩ := lookup?_of_hitUpTo? h
  have htoken : s.token.toList = cs.take n := by
    rw [token_of_lookup? hfound, String.toList_ofList]
  have hn : n = s.token.toList.length := by
    rw [htoken, List.length_take, Nat.min_eq_left (Nat.le_trans hle (Nat.min_le_right ..))]
  refine ⟨⟨mem_of_lookup? hfound, htoken ▸ List.take_prefix n cs, fun t ht hbegins => ?_⟩, hn⟩
  by_contra hlt
  obtain ⟨u, hu⟩ := lookup?_take_of_begins ht hbegins
  cases hu.symm.trans (hlonger _ (hn ▸ Nat.not_le.1 hlt) (length_le_of_begins ht hbegins))

theorem hit?_eq_none_iff (ho : o.IsAccepted) :
    o.hit? cs = none ↔ ∀ s ∈ o.symbols, ¬ s.token.toList <+: cs := by
  rw [hit?, hitUpTo?_eq_none_iff]
  constructor
  · intro h s hs hbegins
    obtain ⟨t, ht⟩ := lookup?_take_of_begins hs hbegins
    have hpos : 0 < s.token.toList.length := by
      simpa [List.length_pos_iff] using ho.token_ne hs
    cases ht.symm.trans (h _ hpos (length_le_of_begins hs hbegins))
  · intro h n _ _
    refine lookup?_eq_none_iff.2 fun s hs htoken => h s hs ?_
    rw [htoken, String.toList_ofList]
    exact List.take_prefix n cs

/-- Downwards from the width of the table, or from what is left of the text, the index finds the
longest of all its tokens. -/
theorem hit?_eq_some_iff (ho : o.IsAccepted) {n : Nat} :
    o.hit? cs = some (s, n) ↔ o.IsLongest cs s ∧ n = s.token.toList.length := by
  constructor
  · exact isLongest_of_hit?
  · rintro ⟨hs, rfl⟩
    cases hhit : o.hit? cs with
    | none => exact absurd hs.begins ((hit?_eq_none_iff ho).1 hhit s hs.mem)
    | some found =>
        obtain ⟨ht, hn⟩ := isLongest_of_hit? hhit
        obtain rfl := hs.unique ho ht
        rw [← hn]

/-! ## Cuts -/

/-- The token may stand first where this text is left: a known one is the longest that begins the
text, and an unknown one stands only where no token of the table begins it. -/
def Fits (o : Ontology) (cs : List Char) : Token → Prop
  | .known s => o.IsLongest cs s
  | .unknown _ => ∀ s ∈ o.symbols, ¬ s.token.toList <+: cs

/-- The texts of the tokens make up the text, and each token fits what is left of it there. -/
structure IsCut (o : Ontology) (cs : List Char) (ts : List Token) : Prop where
  text : ts.flatMap Token.text = cs
  fits : ∀ before t after, ts = before ++ t :: after →
    o.Fits ((t :: after).flatMap Token.text) t

theorem isCut_nil_iff : o.IsCut cs [] ↔ cs = [] := by
  constructor
  · intro h
    exact h.text.symm
  · rintro rfl
    exact ⟨rfl, fun before t after h => by simp at h⟩

theorem isCut_cons_iff :
    o.IsCut cs (t :: ts) ↔ ∃ rest, cs = t.text ++ rest ∧ o.Fits cs t ∧ o.IsCut rest ts := by
  constructor
  · rintro ⟨rfl, hfits⟩
    refine ⟨ts.flatMap Token.text, rfl, hfits [] t ts rfl, rfl, fun before u after h => ?_⟩
    exact hfits (t :: before) u after (congrArg _ h)
  · rintro ⟨_, rfl, hfirst, rfl, hfits⟩
    refine ⟨rfl, fun before u after h => ?_⟩
    cases before with
    | nil =>
        obtain ⟨rfl, rfl⟩ := List.cons.inj h
        exact hfirst
    | cons v before => exact hfits before u after (List.cons.inj h).2

/-- What the tokenizer makes of a text is a cut of it. -/
theorem isCut_tokensAfter (ho : o.IsAccepted) (skip : Nat) (cs : List Char) :
    o.IsCut (cs.drop skip) (o.tokensAfter skip cs) := by
  fun_induction tokensAfter o skip cs with
  | case1 => simp [isCut_nil_iff]
  | case2 _ _ _ ih => exact ih
  | case3 c cs s n hhit ih =>
      obtain ⟨hs, rfl⟩ := (hit?_eq_some_iff ho).1 hhit
      refine isCut_cons_iff.2 ⟨_, ?_, hs, ih⟩
      obtain ⟨rest, hrest⟩ := hs.begins
      have hlength : s.token.toList.length ≠ 0 := by
        simpa using ho.token_ne hs.mem
      have hdrop : cs.drop (s.token.toList.length - 1) = (c :: cs).drop s.token.toList.length := by
        obtain ⟨n, hn⟩ := Nat.exists_eq_succ_of_ne_zero hlength
        rw [hn, Nat.succ_sub_one, List.drop_succ_cons]
      rw [hdrop, ← hrest, List.drop_left]
      rfl
  | case4 c cs hnone ih =>
      exact isCut_cons_iff.2 ⟨cs, rfl, (hit?_eq_none_iff ho).1 hnone, ih⟩

theorem Fits.text_ne_nil (ho : o.IsAccepted) (h : o.Fits cs t) : t.text ≠ [] := by
  cases t with
  | known s => simpa [Token.text] using ho.token_ne h.mem
  | unknown c => exact List.cons_ne_nil c []

theorem IsCut.eq_nil (ho : o.IsAccepted) (h : o.IsCut [] ts) : ts = [] := by
  cases ts with
  | nil => rfl
  | cons t ts =>
      obtain ⟨rest, hrest, hfits, _⟩ := isCut_cons_iff.1 h
      exact absurd (List.append_eq_nil_iff.1 hrest.symm).1 (hfits.text_ne_nil ho)

theorem Fits.unique (ho : o.IsAccepted) {u : Token} {rest rest' : List Char} (ht : o.Fits cs t)
    (hu : o.Fits cs u) (hrest : cs = t.text ++ rest) (hrest' : cs = u.text ++ rest') : t = u := by
  cases t with
  | known s =>
      cases u with
      | known s' => rw [IsLongest.unique ho ht hu]
      | unknown c => exact absurd ht.begins (hu s ht.mem)
  | unknown c =>
      cases u with
      | known s => exact absurd hu.begins (ht s hu.mem)
      | unknown c' =>
          have hcons : c :: rest = c' :: rest' := hrest.symm.trans hrest'
          rw [(List.cons.inj hcons).1]

/-- No text has two cuts. -/
theorem IsCut.unique (ho : o.IsAccepted) {us : List Token} (ht : o.IsCut cs ts)
    (hu : o.IsCut cs us) : ts = us := by
  induction ts generalizing cs us with
  | nil =>
      obtain rfl := isCut_nil_iff.1 ht
      exact (hu.eq_nil ho).symm
  | cons t ts ih =>
      cases us with
      | nil =>
          obtain rfl := isCut_nil_iff.1 hu
          exact ht.eq_nil ho
      | cons u us =>
          obtain ⟨rest, hrest, hfits, hcut⟩ := isCut_cons_iff.1 ht
          obtain ⟨rest', hrest', hfits', hcut'⟩ := isCut_cons_iff.1 hu
          obtain rfl := hfits.unique ho hfits' hrest hrest'
          obtain rfl := List.append_cancel_left (hrest.symm.trans hrest')
          rw [ih hcut hcut']

theorem isCut_token (ho : o.IsAccepted) (hs : s ∈ o.symbols) :
    o.IsCut (significant s.token) [.known s] := by
  have hself : o.IsLongest s.token.toList s :=
    ⟨hs, List.prefix_refl _, fun _ _ hbegins => hbegins.length_le⟩
  rw [ho.significant_token hs, isCut_cons_iff]
  exact ⟨[], (List.append_nil _).symm, hself, isCut_nil_iff.2 rfl⟩

/-- The tokens of a raw frame are the one cut of its significant characters, whatever token of the
table begins another. Written alone, every token of the table is read as itself. -/
theorem tokenize_eq_iff_isCut (o : Ontology) (ho : o.IsAccepted) :
    (∀ raw ts, o.tokenize raw = ts ↔ o.IsCut (significant raw) ts) ∧
      ∀ s ∈ o.symbols, o.tokenize s.token = [.known s] := by
  have hcut (raw : String) : o.IsCut (significant raw) (o.tokenize raw) :=
    isCut_tokensAfter ho 0 (significant raw)
  refine ⟨fun raw ts => ⟨?_, fun h => (hcut raw).unique ho h⟩, fun s hs => ?_⟩
  · rintro rfl
    exact hcut raw
  · exact (hcut s.token).unique ho (isCut_token ho hs)

/-- The standard table with three more tokens, each of which begins the next. -/
def nested : Ontology :=
  .index (standardSymbols ++
    [⟨"a", "short", "", .modifier⟩, ⟨"ab", "middle", "", .modifier⟩,
      ⟨"abc", "long", "", .modifier⟩])

theorem isAccepted_nested : nested.IsAccepted := by
  refine ⟨nested.symbols, ofSymbols_eq_ok_iff.2 ⟨nofun, ?_, ?_, ?_⟩⟩ <;> decide +kernel

/-- A blank does not end a token, and the longest token is taken although shorter ones fit. -/
theorem isCut_nested :
    nested.IsAccepted ∧
      nested.IsCut (significant "ab c?ab")
        [.known ⟨"abc", "long", "", .modifier⟩, .unknown '?',
          .known ⟨"ab", "middle", "", .modifier⟩] ∧
      nested.tokenize "ab" = [.known ⟨"ab", "middle", "", .modifier⟩] := by
  obtain ⟨hcut, halone⟩ := tokenize_eq_iff_isCut nested isAccepted_nested
  exact ⟨isAccepted_nested, (hcut _ _).1 (by decide +kernel),
    halone ⟨"ab", "middle", "", .modifier⟩ (by decide +kernel)⟩

end Mandate.Ontology
