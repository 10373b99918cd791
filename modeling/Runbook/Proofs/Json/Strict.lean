import Runbook.Json.Strict
import Runbook.Proofs.Data

/-!
# What strict JSON can hold

Strict JSON has a form for a value if all the numbers in it are finite, however deep they stand, and a
form for a datum if it can be resolved to such a value.
-/

namespace Runbook

namespace Value

/-- A floating-point number that stands somewhere in a value. -/
inductive HasDouble (d : Double) : Value → Prop where
  | number : HasDouble d (.number (.double d))
  | item {items : List Value} {v : Value} (hitem : v ∈ items) (hv : HasDouble d v) :
      HasDouble d (.list items)
  | field {fields : List (String × Value)} {name : String} {v : Value}
      (hfield : (name, v) ∈ fields) (hv : HasDouble d v) : HasDouble d (.object fields)

theorem hasDouble_list_iff {d : Double} {items : List Value} :
    HasDouble d (.list items) ↔ ∃ v ∈ items, HasDouble d v := by
  constructor
  · rintro (_ | ⟨hitem, hv⟩)
    exact ⟨_, hitem, hv⟩
  · rintro ⟨v, hitem, hv⟩
    exact .item hitem hv

theorem hasDouble_object_iff {d : Double} {fields : Fields} :
    HasDouble d (.object fields) ↔ ∃ field ∈ fields, HasDouble d field.2 := by
  constructor
  · rintro (_ | _ | ⟨hfield, hv⟩)
    exact ⟨_, hfield, hv⟩
  · rintro ⟨⟨name, v⟩, hfield, hv⟩
    exact .field hfield hv

mutual

theorem isFinite_iff : ∀ v : Value, v.isFinite = true ↔ ∀ d, HasDouble d v → d.isFinite = true
  | .null => by simp [isFinite]; nofun
  | .bool b => by simp [isFinite]; nofun
  | .string s => by simp [isFinite]; nofun
  | .number (.int n) => by simp [isFinite]; nofun
  | .number (.double d) => by
    simp only [isFinite]
    constructor
    · rintro hfinite e (_ | _)
      exact hfinite
    · intro hall
      exact hall d .number
  | .list items => by
    simp only [isFinite, allFinite_iff items, hasDouble_list_iff]
    exact ⟨fun hall d ⟨v, hitem, hv⟩ => hall v hitem d hv, fun hall v hitem d hv =>
      hall d ⟨v, hitem, hv⟩⟩
  | .object fields => by
    simp only [isFinite, allFieldsFinite_iff fields, hasDouble_object_iff]
    exact ⟨fun hall d ⟨field, hfield, hv⟩ => hall field hfield d hv, fun hall field hfield d hv =>
      hall d ⟨field, hfield, hv⟩⟩

theorem allFinite_iff : ∀ items : List Value,
    allFinite items = true ↔ ∀ v ∈ items, ∀ d, HasDouble d v → d.isFinite = true
  | [] => by simp [allFinite]
  | v :: rest => by
    simp [allFinite, isFinite_iff v, allFinite_iff rest]

theorem allFieldsFinite_iff : ∀ fields : List (String × Value),
    allFieldsFinite fields = true ↔ ∀ field ∈ fields, ∀ d, HasDouble d field.2 → d.isFinite = true
  | [] => by simp [allFieldsFinite]
  | (name, v) :: rest => by
    simp only [allFieldsFinite, Bool.and_eq_true, isFinite_iff v, allFieldsFinite_iff rest,
      List.forall_mem_cons]

end

end Value

namespace Data

variable {data : Data} {d : Datum} {v : Value} {fields : Value.Fields}

end Data

end Runbook
