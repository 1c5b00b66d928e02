/-!
# Maps from names

A finite map whose keys are texts, kept as a list in increasing order of its keys, so that equal
maps have equal lists. The main statements say what a look-up finds after an insertion or a removal.
-/

namespace Mandate

/-- A finite map from texts, in increasing order of its keys. -/
structure Keyed (α : Type) where
  entries : List (String × α)
  sorted : entries.Pairwise (·.1 < ·.1)

namespace Keyed

variable {α β : Type}

/-! ## Lists in key order -/

/-- Puts a value under its key, in place of what stood there. -/
def place (key : String) (value : α) : List (String × α) → List (String × α)
  | [] => [(key, value)]
  | e :: es =>
    if key < e.1 then (key, value) :: e :: es
    else if key = e.1 then (key, value) :: es
    else e :: place key value es

theorem mem_place {key : String} {value : α} {es : List (String × α)} {e : String × α} :
    e ∈ place key value es → e = (key, value) ∨ e ∈ es := by
  induction es with
  | nil => simp [place]
  | cons d ds ih =>
    unfold place
    split
    · simp
    · split
      · simp only [List.mem_cons]; rintro (h | h) <;> simp [h]
      · simp only [List.mem_cons]
        rintro (h | h)
        · simp [h]
        · rcases ih h with h | h <;> simp [h]

theorem lt_of_not_lt_of_ne {a b : String} (h : ¬ a < b) (hne : a ≠ b) : b < a := by
  rcases Std.lt_trichotomy a b with h' | h' | h'
  · exact absurd h' h
  · exact absurd h' hne
  · exact h'

theorem place_sorted {key : String} {value : α} {es : List (String × α)}
    (h : es.Pairwise (·.1 < ·.1)) : (place key value es).Pairwise (·.1 < ·.1) := by
  induction es with
  | nil => simp [place]
  | cons d ds ih =>
    obtain ⟨hd, hds⟩ := List.pairwise_cons.1 h
    unfold place
    split
    next hlt =>
      refine List.pairwise_cons.2 ⟨fun e he => ?_, h⟩
      rcases List.mem_cons.1 he with rfl | he
      · exact hlt
      · exact String.lt_trans hlt (hd e he)
    next hlt =>
      split
      next heq =>
        subst heq
        exact List.pairwise_cons.2 ⟨fun e he => hd e he, hds⟩
      next hne =>
        refine List.pairwise_cons.2 ⟨fun e he => ?_, ih hds⟩
        rcases mem_place he with rfl | he
        · exact lt_of_not_lt_of_ne hlt hne
        · exact hd e he

/-! ## Operations -/

def empty : Keyed α :=
  ⟨[], .nil⟩

instance : EmptyCollection (Keyed α) := ⟨empty⟩

instance : Inhabited (Keyed α) := ⟨empty⟩

instance [BEq α] : BEq (Keyed α) := ⟨fun a b => a.entries == b.entries⟩

def get? (m : Keyed α) (key : String) : Option α :=
  m.entries.lookup key

/-- Whether a value stands under the key. -/
def contains (m : Keyed α) (key : String) : Bool :=
  (m.get? key).isSome

/-- Puts a value under a key, in place of what stood there. -/
def insert (m : Keyed α) (key : String) (value : α) : Keyed α :=
  ⟨place key value m.entries, place_sorted m.sorted⟩

/-- Removes a key. -/
def erase (m : Keyed α) (key : String) : Keyed α :=
  ⟨m.entries.filter (·.1 ≠ key), m.sorted.filter _⟩

/-- The keys in increasing order. -/
def keys (m : Keyed α) : List String :=
  m.entries.map (·.1)

/-- The values in increasing order of their keys. -/
def values (m : Keyed α) : List α :=
  m.entries.map (·.2)

def size (m : Keyed α) : Nat :=
  m.entries.length

/-- The map of a list of pairs; of pairs with one key the last counts. -/
def ofList (es : List (String × α)) : Keyed α :=
  es.foldl (fun m e => m.insert e.1 e.2) empty

/-- Applies a function to every value. -/
def map (f : α → β) (m : Keyed α) : Keyed β :=
  ⟨m.entries.map fun e => (e.1, f e.2), List.pairwise_map.2 m.sorted⟩

/-! ## What a look-up finds -/

theorem lookup_place_self (key : String) (value : α) (es : List (String × α)) :
    (place key value es).lookup key = some value := by
  induction es with
  | nil => simp [place]
  | cons d ds ih =>
    rw [place]
    split
    · exact List.lookup_cons_self
    · split
      · exact List.lookup_cons_self
      next hne => rw [List.lookup_cons, beq_eq_false_iff_ne.2 hne]; exact ih

theorem lookup_place_of_ne {key other : String} (h : other ≠ key) (value : α)
    (es : List (String × α)) : (place key value es).lookup other = es.lookup other := by
  have hk : (other == key) = false := beq_eq_false_iff_ne.2 h
  induction es with
  | nil => rw [place, List.lookup_cons, hk]
  | cons d ds ih =>
    rw [place]
    split
    · rw [List.lookup_cons, hk]
    · split
      next heq => rw [List.lookup_cons, List.lookup_cons, ← heq, hk]
      · rw [List.lookup_cons, List.lookup_cons, ih]

theorem lookup_eq_some_iff {es : List (String × α)} (h : es.Pairwise (·.1 < ·.1)) {key : String}
    {value : α} : es.lookup key = some value ↔ (key, value) ∈ es := by
  induction es with
  | nil => simp
  | cons d ds ih =>
    obtain ⟨hd, hds⟩ := List.pairwise_cons.1 h
    rw [List.lookup_cons, List.mem_cons]
    by_cases hkey : key = d.1
    · subst hkey
      -- The key stands once, so no later entry has it.
      have hlater : (d.1, value) ∉ ds := fun he => Std.lt_irrefl (hd (d.1, value) he)
      simp [hlater, Prod.ext_iff, eq_comm]
    · have hne : (key == d.1) = false := beq_eq_false_iff_ne.2 hkey
      have hnot : (key, value) ≠ d := fun he => hkey (congrArg Prod.fst he)
      simp [hne, hnot, ih hds]

@[simp] theorem get?_empty (key : String) : (empty : Keyed α).get? key = none := rfl

theorem get?_eq_some_iff {m : Keyed α} {key : String} {value : α} :
    m.get? key = some value ↔ (key, value) ∈ m.entries :=
  lookup_eq_some_iff m.sorted

@[simp] theorem get?_insert_self (m : Keyed α) (key : String) (value : α) :
    (m.insert key value).get? key = some value :=
  lookup_place_self key value m.entries

theorem get?_insert_of_ne (m : Keyed α) {key other : String} (h : other ≠ key) (value : α) :
    (m.insert key value).get? other = m.get? other :=
  lookup_place_of_ne h value m.entries

theorem lookup_filter_ne {key other : String} (h : other ≠ key) (es : List (String × α)) :
    (es.filter (·.1 ≠ key)).lookup other = es.lookup other := by
  induction es with
  | nil => rfl
  | cons d ds ih =>
    rw [List.filter_cons]
    split
    · rw [List.lookup_cons, List.lookup_cons, ih]
    next hd =>
      have hd : d.1 = key := by simpa using hd
      have : (other == d.1) = false := by simp [hd, h]
      rw [ih, List.lookup_cons, this]

theorem lookup_filter_self (key : String) (es : List (String × α)) :
    (es.filter (·.1 ≠ key)).lookup key = none := by
  rw [List.lookup_eq_none_iff]
  intro e he
  have hne : e.1 ≠ key := by simpa using (List.mem_filter.1 he).2
  exact bne_iff_ne.2 hne.symm

@[simp] theorem get?_erase_self (m : Keyed α) (key : String) : (m.erase key).get? key = none :=
  lookup_filter_self key m.entries

theorem get?_erase_of_ne (m : Keyed α) {key other : String} (h : other ≠ key) :
    (m.erase key).get? other = m.get? other :=
  lookup_filter_ne h m.entries

theorem get?_foldl_insert (m : Keyed α) (es : List (String × α)) (key : String) :
    (es.foldl (fun m e => m.insert e.1 e.2) m).get? key =
      (es.reverse.lookup key).or (m.get? key) := by
  induction es generalizing m with
  | nil => rfl
  | cons e es ih =>
    obtain ⟨own, value⟩ := e
    rw [List.foldl_cons, ih, List.reverse_cons, List.lookup_append, Option.or_assoc]
    congr 1
    by_cases h : key = own
    · subst h
      rw [get?_insert_self, List.lookup_cons_self, Option.some_or]
    · rw [get?_insert_of_ne m h, List.lookup_cons, beq_eq_false_iff_ne.2 h]
      exact Option.none_or.symm

/-- Of pairs with one key a look-up finds the last. -/
theorem get?_ofList (es : List (String × α)) (key : String) :
    (ofList es).get? key = es.reverse.lookup key :=
  (get?_foldl_insert ..).trans (Option.or_none ..)

end Keyed
end Mandate
