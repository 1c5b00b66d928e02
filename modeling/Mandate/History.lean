/-!
# Bounded histories

A history is given one entry after the other and then loses its oldest ones for as long as it is
over its capacity. So it keeps the newest entries (`trim_eq_keepNewest`). Trimming after every entry
or once at the end is the same (`keepNewest_append`), and a history that is given one entry after
the other holds the newest of them (`foldl_remember`, `holdsNewest_keepNewest`).
-/

namespace Mandate

variable {α : Type}

/-- Removes the oldest entry, which stands first, for as long as there are more than the
capacity. -/
def trim (capacity : Nat) : List α → List α
  | [] => []
  | x :: xs => if capacity < (x :: xs).length then trim capacity xs else x :: xs

/-- A history after one more entry. -/
def remember (capacity : Nat) (history : List α) (entry : α) : List α :=
  trim capacity (history ++ [entry])

/-! ## The newest entries -/

/-- The newest `capacity` entries of a list whose oldest entry stands first. -/
def keepNewest (capacity : Nat) (entries : List α) : List α :=
  entries.drop (entries.length - capacity)

theorem trim_eq_keepNewest (capacity : Nat) (entries : List α) :
    trim capacity entries = keepNewest capacity entries := by
  induction entries with
  | nil => simp [trim, keepNewest]
  | cons x xs ih =>
      rw [trim]
      split
      next h =>
        rw [List.length_cons] at h
        rw [ih, keepNewest, keepNewest, List.length_cons, Nat.succ_sub (Nat.le_of_lt_succ h),
          List.drop_succ_cons]
      next h => rw [keepNewest, Nat.sub_eq_zero_of_le (Nat.not_lt.1 h), List.drop_zero]

theorem remember_eq_keepNewest (capacity : Nat) (history : List α) (entry : α) :
    remember capacity history entry = keepNewest capacity (history ++ [entry]) :=
  trim_eq_keepNewest ..

theorem length_keepNewest (capacity : Nat) (entries : List α) :
    (keepNewest capacity entries).length = min capacity entries.length := by
  simp only [keepNewest, List.length_drop]
  omega

theorem keepNewest_of_length_le {capacity : Nat} {entries : List α}
    (h : entries.length ≤ capacity) : keepNewest capacity entries = entries := by
  simp [keepNewest, Nat.sub_eq_zero_of_le h]

theorem map_remember {β : Type} (f : α → β) (capacity : Nat) (history : List α) (entry : α) :
    (remember capacity history entry).map f = remember capacity (history.map f) (f entry) := by
  simp [remember_eq_keepNewest, keepNewest, List.map_drop]

theorem keepNewest_sublist (capacity : Nat) (entries : List α) :
    (keepNewest capacity entries).Sublist entries :=
  List.drop_sublist ..

theorem mem_of_mem_remember {capacity : Nat} {history : List α} {entry x : α}
    (h : x ∈ remember capacity history entry) : x ∈ history ∨ x = entry := by
  rw [remember_eq_keepNewest] at h
  simpa using (keepNewest_sublist ..).subset h

/-- An entry of a bounded history is followed by fewer entries than the capacity. -/
theorem keepNewest_eq_append_cons_iff {capacity : Nat} {xs newer : List α} {x : α} :
    (∃ older, keepNewest capacity xs = older ++ x :: newer) ↔
      newer.length < capacity ∧ ∃ older, xs = older ++ x :: newer := by
  constructor
  · rintro ⟨older, h⟩
    have hlength := congrArg List.length h
    rw [length_keepNewest] at hlength
    simp only [List.length_append, List.length_cons] at hlength
    refine ⟨by omega, xs.take (xs.length - capacity) ++ older, ?_⟩
    rw [List.append_assoc, ← h]
    exact (List.take_append_drop ..).symm
  · rintro ⟨hlength, older, rfl⟩
    refine ⟨older.drop ((older ++ x :: newer).length - capacity), ?_⟩
    refine List.drop_append_of_le_length ?_
    simp only [List.length_append, List.length_cons]
    omega

/-- Trimming a first part before more entries follow changes nothing. -/
theorem keepNewest_append (capacity : Nat) (xs ys : List α) :
    keepNewest capacity (keepNewest capacity xs ++ ys) = keepNewest capacity (xs ++ ys) := by
  by_cases h : xs.length ≤ capacity
  · rw [keepNewest_of_length_le h]
  · have h' : xs.length - capacity ≤ (xs ++ ys).length - capacity := by
      simp only [List.length_append]; omega
    have hle : xs.length - capacity ≤ xs.length := Nat.sub_le ..
    simp only [keepNewest, ← List.drop_append_of_le_length hle, List.drop_drop, List.length_drop,
      List.length_append]
    congr 1
    omega

theorem remember_keepNewest (capacity : Nat) (given : List α) (entry : α) :
    remember capacity (keepNewest capacity given) entry =
      keepNewest capacity (given ++ [entry]) := by
  rw [remember_eq_keepNewest, keepNewest_append]

/-- A history that is given entries one after the other. -/
theorem foldl_remember (capacity : Nat) (held given : List α) :
    given.foldl (remember capacity) (keepNewest capacity held) =
      keepNewest capacity (held ++ given) := by
  induction given generalizing held with
  | nil => rw [List.foldl_nil, List.append_nil]
  | cons x xs ih =>
      rw [List.foldl_cons, remember_keepNewest, ih, List.append_assoc, List.singleton_append]

-- A full history loses as many entries as it is given.
example : [4, 5].foldl (remember 3) [1, 2, 3] = [3, 4, 5] := by decide

theorem reverse_keepNewest (capacity : Nat) (entries : List α) :
    (keepNewest capacity entries).reverse = entries.reverse.take capacity := by
  rw [keepNewest, List.reverse_drop]
  by_cases h : capacity ≤ entries.length
  · rw [Nat.sub_sub_self h]
  · have hlength : entries.reverse.length = entries.length := List.length_reverse
    rw [List.take_of_length_le (by omega), List.take_of_length_le (by omega)]

/-! ## What is held of what was given -/

/-- The newest of the given entries are held, in their order, and as many as there is room for. -/
structure HoldsNewest (capacity : Nat) (given held : List α) : Prop where
  suffix : held <:+ given
  length_eq : held.length = min capacity given.length

theorem holdsNewest_keepNewest (capacity : Nat) (given : List α) :
    HoldsNewest capacity given (keepNewest capacity given) :=
  ⟨List.drop_suffix .., length_keepNewest ..⟩

/-- Those of some entries that are our own, behind the last of them that forgets the others. -/
def sinceLast (isOwn forgets : α → Bool) (entries : List α) : List α :=
  entries.foldl (fun kept x => if isOwn x then if forgets x then [] else kept ++ [x] else kept) []

theorem sinceLast_concat (isOwn forgets : α → Bool) (entries : List α) (x : α) :
    sinceLast isOwn forgets (entries ++ [x]) =
      if isOwn x then if forgets x then [] else sinceLast isOwn forgets entries ++ [x]
      else sinceLast isOwn forgets entries :=
  List.foldl_append

end Mandate
