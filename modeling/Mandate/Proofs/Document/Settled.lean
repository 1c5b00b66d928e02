import Mandate.Proofs.Document.Fields
import Mathlib.Data.List.Induction

/-!
# Trees in settled form

A tree of finite numbers whose records have their fields in increasing order is left as it is by
`settle`, and a map reads back as it was.
-/

namespace Mandate

/-! ## Maps made of their own entries -/

namespace Keyed

variable {α : Type}

theorem place_of_forall_lt {key : String} {es : List (String × α)} (h : ∀ e ∈ es, e.1 < key)
    (value : α) : place key value es = es ++ [(key, value)] := by
  induction es with
  | nil => rfl
  | cons e es ih =>
      obtain ⟨he, hes⟩ := List.forall_mem_cons.1 h
      have hnot : ¬ key < e.1 := fun hlt => Std.lt_irrefl (String.lt_trans hlt he)
      have hne : key ≠ e.1 := fun heq => Std.lt_irrefl (heq ▸ he)
      rw [place, if_neg hnot, if_neg hne, ih hes, List.cons_append]

theorem entries_ofList {es : List (String × α)} (h : es.Pairwise (·.1 < ·.1)) :
    (ofList es).entries = es := by
  induction es using List.reverseRecOn with
  | nil => rfl
  | append_singleton es e ih =>
      obtain ⟨hes, -, hlast⟩ := List.pairwise_append.1 h
      have hstep : (ofList (es ++ [e])).entries = place e.1 e.2 (ofList es).entries := by
        rw [ofList, List.foldl_append]
        rfl
      rw [hstep, ih hes]
      exact place_of_forall_lt (fun d hd => hlast d hd e (List.mem_singleton_self e)) e.2

theorem eq_of_entries_eq {m m' : Keyed α} (h : m.entries = m'.entries) : m = m' := by
  cases m
  cases m'
  cases h
  rfl

theorem ofList_entries (m : Keyed α) : ofList m.entries = m :=
  eq_of_entries_eq (entries_ofList m.sorted)

end Keyed

namespace Datum

variable {F α : Type}

theorem keyed?_ofKeyed {encode : α → Datum F} {decode : Datum F → Option α} {m : Keyed α}
    (h : ∀ a ∈ m.values, decode (encode a) = some a) :
    (ofKeyed encode m).keyed? decode = some m := by
  have hentries : (m.entries.map fun e => (e.1, encode e.2)).mapM
      (fun f => return (f.1, ← decode f.2)) = some m.entries :=
    mapM_map_self fun e he => by
      rw [h e.2 (List.mem_map_of_mem he)]
      rfl
  rw [ofKeyed, keyed?, hentries]
  exact congrArg some m.ofList_entries

/-! ## Settled trees -/

variable [Scalar F]

mutual

/-- The numbers of the tree are finite, and its records have each field once, in increasing
order. -/
def isSettled : Datum F → Bool
  | num x => Scalar.isFinite x
  | list items => itemsSettled items
  | record fields => decide (fields.Pairwise (·.1 < ·.1)) && fieldsSettled fields
  | _ => true

def itemsSettled : List (Datum F) → Bool
  | [] => true
  | d :: ds => isSettled d && itemsSettled ds

def fieldsSettled : List (String × Datum F) → Bool
  | [] => true
  | (_, d) :: fs => isSettled d && fieldsSettled fs

end

mutual

theorem settle_of_isSettled (d : Datum F) (h : d.isSettled = true) : d.settle = d := by
  match d with
  | null | bool _ | int _ | text _ => rfl
  | num x =>
      rw [isSettled] at h
      rw [settle, ofScalar, if_pos h]
  | list items =>
      rw [isSettled] at h
      rw [settle, settleItems_of_settled items h]
  | record fields =>
      rw [isSettled, Bool.and_eq_true, decide_eq_true_eq] at h
      rw [settle, settleFields_of_settled fields h.2, Keyed.entries_ofList h.1]

theorem settleItems_of_settled (items : List (Datum F)) (h : itemsSettled items = true) :
    settleItems items = items := by
  match items with
  | [] => rw [settleItems]
  | d :: ds =>
      rw [itemsSettled, Bool.and_eq_true] at h
      rw [settleItems, settle_of_isSettled d h.1, settleItems_of_settled ds h.2]

theorem settleFields_of_settled (fields : List (String × Datum F))
    (h : fieldsSettled fields = true) : settleFields fields = fields := by
  match fields with
  | [] => rw [settleFields]
  | (name, d) :: fs =>
      rw [fieldsSettled, Bool.and_eq_true] at h
      rw [settleFields, settle_of_isSettled d h.1, settleFields_of_settled fs h.2]

end

end Datum
end Mandate
