import Mandate.Datum.Fields
import Mathlib.Data.List.Nodup
import Mathlib.Logic.Basic

/-!
# Reading what was written

Each reader of plain values gives back what was written, or nothing where that has no written form
or does not fit. A record that names each of its fields once shows its fields to whoever reads it,
so that the fields of a type are read one by one.
-/

namespace Mandate

variable {F α : Type}

namespace Datum

/-! ## Plain values -/

@[simp] theorem bool?_bool (b : Bool) : (bool b : Datum F).bool? = some b := rfl

@[simp] theorem text?_text (s : String) : (text s : Datum F).text? = some s := rfl

@[simp] theorem scalar?_ofScalar [Scalar F] (x : F) :
    (ofScalar x).scalar? = if Scalar.isFinite x then some x else none := by
  rw [ofScalar]
  split <;> rfl

@[simp] theorem count?_ofNat (limit n : Nat) :
    (ofNat n : Datum F).count? limit = if n < limit then some n else none := by
  simp [ofNat, count?]

@[simp] theorem named?_text (all : List α) (name : α → String) (s : String) :
    (text s : Datum F).named? all name = firstNamed? all name s := rfl

/-! ## Options, lists and maps -/

variable {encode : α → Datum F} {decode : Datum F → Option α} {p : α → Bool}

theorem option?_of_ne_null {d : Datum F} (h : d ≠ null) :
    d.option? decode = (decode d).map some := by
  cases d with
  | null => exact absurd rfl h
  | _ => rfl

theorem option?_ofOption (h : ∀ a, decode (encode a) = if p a then some a else none)
    (hnull : ∀ a, encode a ≠ null) (o : Option α) :
    (ofOption encode o).option? decode = if o.all p then some o else none := by
  cases o with
  | none => rfl
  | some a =>
      rw [ofOption, option?_of_ne_null (hnull a), h a, Option.all_some]
      split <;> rfl

theorem option?_ofOption_self (h : ∀ a, decode (encode a) = some a) (hnull : ∀ a, encode a ≠ null)
    (o : Option α) : (ofOption encode o).option? decode = some o := by
  cases o with
  | none => rfl
  | some a => rw [ofOption, option?_of_ne_null (hnull a), h a, Option.map_some]

theorem mapM_map {β : Type} {encode : α → β} {decode : β → Option α}
    (h : ∀ x, decode (encode x) = if p x then some x else none) (xs : List α) :
    (xs.map encode).mapM decode = if xs.all p then some xs else none := by
  induction xs with
  | nil => rfl
  | cons x xs ih =>
      rw [List.map_cons, List.mapM_cons, h x, ih, List.all_cons]
      cases p x <;> cases xs.all p <;> rfl

theorem mapM_map_self {β : Type} {encode : α → β} {decode : β → Option α} {xs : List α}
    (h : ∀ x ∈ xs, decode (encode x) = some x) : (xs.map encode).mapM decode = some xs := by
  induction xs with
  | nil => rfl
  | cons x xs ih =>
      obtain ⟨hx, hxs⟩ := List.forall_mem_cons.1 h
      rw [List.map_cons, List.mapM_cons, hx, ih hxs]
      rfl

theorem list?_ofList (h : ∀ x, decode (encode x) = if p x then some x else none) (xs : List α) :
    (ofList encode xs).list? decode = if xs.all p then some xs else none :=
  mapM_map h xs

theorem list?_ofList_self (h : ∀ x, decode (encode x) = some x) (xs : List α) :
    (ofList encode xs).list? decode = some xs :=
  mapM_map_self fun x _ => h x

end Datum

/-! ## Records -/

theorem Datum.repeats_eq_false {names : List String} (h : names.Nodup) :
    repeats names = false := by
  have herase : names.eraseDups = names := by
    induction names with
    | nil => rfl
    | cons a as ih =>
        obtain ⟨ha, has⟩ := List.nodup_cons.1 h
        have hothers : (as.filter fun b => !b == a) = as :=
          List.filter_eq_self.2 fun b hb => by simpa using ne_of_mem_of_not_mem hb ha
        rw [List.eraseDups_cons, hothers, ih has]
  simp [repeats, herase]

theorem Datum.lookup_filter_contains {names : List String} {name : String} (h : name ∈ names)
    (fs : List (String × Datum F)) :
    (fs.filter fun f => names.contains f.1).lookup name = fs.lookup name := by
  induction fs with
  | nil => rfl
  | cons f fs ih =>
      rw [List.filter_cons, List.lookup_cons]
      split
      · rw [List.lookup_cons, ih]
      next hother =>
        have hne : name ≠ f.1 := by
          rintro rfl
          exact hother (List.contains_iff_mem.2 h)
        rw [beq_eq_false_iff_ne.2 hne, ih]

/-- Of the fields of a record, those of some names are at hand. -/
structure Fields.Shows (f : Fields F) (names : List String) (fs : List (String × Datum F)) :
    Prop where
  byName : f.positional = false
  lookup_eq : ∀ name ∈ names, f.entries.lookup name = fs.lookup name

namespace Fields.Shows

variable {f : Fields F} {names : List String} {fs : List (String × Datum F)} {name : String}
  {d : Datum F} (h : f.Shows names fs) (hname : name ∈ names)

include h hname

theorem required_eq (hd : fs.lookup name = some d) (decode : Datum F → Option α) :
    f.required name decode = decode d := by
  rw [Fields.required, h.lookup_eq name hname, hd]
  rfl

theorem optional_eq (hd : fs.lookup name = some d) (decode : Datum F → Option α) :
    f.optional name decode = d.option? decode := by
  rw [Fields.optional, h.lookup_eq name hname, hd]

theorem withDefault_eq (hd : fs.lookup name = some d) (default : α)
    (decode : Datum F → Option α) : f.withDefault name default decode = decode d := by
  rw [Fields.withDefault, h.lookup_eq name hname, hd]

theorem withDefault_eq_default (hlacks : name ∉ fs.map Prod.fst) (default : α)
    (decode : Datum F → Option α) : f.withDefault name default decode = some default := by
  have hlookup : fs.lookup name = none := by
    refine List.lookup_eq_none_iff.2 fun e he => bne_iff_ne.2 ?_
    rintro rfl
    exact hlacks (List.mem_map_of_mem he)
  rw [Fields.withDefault, h.lookup_eq name hname, hlookup]

end Fields.Shows

/-- Reading a record that names each of its fields once. -/
theorem Datum.bind_fields?_record {dialect : Dialect} {names : List String}
    {fs : List (String × Datum F)} {read : Fields F → Option α} {result : Option α}
    (hnodup : (fs.map Prod.fst).Nodup) (h : ∀ f : Fields F, f.Shows names fs → read f = result) :
    (record fs).fields? dialect names >>= read = result := by
  have hknown : ((fs.filter fun f => names.contains f.1).map Prod.fst).Nodup :=
    hnodup.sublist (List.filter_sublist.map _)
  simp only [fields?, repeats_eq_false hknown, Bool.false_eq_true, if_false]
  exact h _ ⟨rfl, fun name hname => lookup_filter_contains hname fs⟩

@[simp] theorem bind_ite_some {β : Type} (p : Prop) [Decidable p] (a : α) (f : α → Option β) :
    (if p then some a else none) >>= f = if p then f a else none := by
  split <;> rfl

theorem all_and (p q : α → Bool) (xs : List α) :
    (xs.all fun x => p x && q x) = (xs.all p && xs.all q) := by
  induction xs with
  | nil => rfl
  | cons x xs ih =>
      simp only [List.all_cons, ih]
      ac_rfl

end Mandate
