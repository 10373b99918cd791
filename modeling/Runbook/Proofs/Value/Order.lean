import Runbook.Proofs.Number
import Runbook.Value.Equality
import Runbook.Value.Order

/-!
# The order of values

Exchanging two values swaps their order, and two values have none in either direction at once. Equal values
are never apart: where they have an order at all, neither comes first.
-/

namespace Runbook.Value

theorem compareNumbers_swap (a b : Number) :
    compareNumbers b a = (compareNumbers a b).swap := by
  unfold compareNumbers
  rw [Number.order?_swap]
  cases a.order? b <;> rfl

theorem compareNumbers_of_eq {a b : Number} (h : a.eq b = true) : compareNumbers a b = .eq := by
  unfold compareNumbers
  rw [Number.eq_iff.mp h]
  rfl

theorem compareTexts_swap (s t : String) : compareTexts s t = (compareTexts t s).swap := by
  unfold compareTexts
  exact Std.OrientedCmp.eq_swap

theorem compareTexts_self (s : String) : compareTexts s s = .eq := by
  unfold compareTexts
  exact Std.ReflCmp.compare_self

theorem order?_number_right (v : Value) (b : Number) :
    order? v (.number b) = v.asNumber?.map (compareNumbers · b) := by
  cases v <;> rfl

theorem order?_number_swap (a : Number) (w : Value) :
    order? w (.number a) = (order? (.number a) w).map Ordering.swap := by
  rw [order?_number_right, order?]
  cases w.asNumber? with
  | none => rfl
  | some b => exact congrArg some (compareNumbers_swap a b)

theorem order?_swap (v w : Value) : order? w v = (order? v w).map Ordering.swap := by
  -- A number on either side decides which rule is taken, so the cases with one come first.
  by_cases hv : ∃ a, v = .number a
  · obtain ⟨a, rfl⟩ := hv
    exact order?_number_swap a w
  by_cases hw : ∃ b, w = .number b
  · obtain ⟨b, rfl⟩ := hw
    rw [order?_number_swap b v, Option.map_map]
    cases order? (.number b) v with
    | none => rfl
    | some order => exact congrArg some (Ordering.swap_swap (o := order)).symm
  cases v with
  | number a => exact absurd ⟨a, rfl⟩ hv
  | string s =>
    cases w with
    | number b => exact absurd ⟨b, rfl⟩ hw
    | string t => exact congrArg some (compareTexts_swap t s)
    | _ => rfl
  | _ =>
    cases w with
    | number b => exact absurd ⟨b, rfl⟩ hw
    | _ => rfl

theorem order?_of_strictEq {v w : Value} (h : strictEq v w = true) :
    order? v w = none ∨ order? v w = some .eq := by
  cases v with
  | number a =>
    cases w with
    | number b => exact Or.inr (congrArg some (compareNumbers_of_eq h))
    | _ => cases h
  | string s =>
    cases w with
    | string t =>
      obtain rfl : s = t := beq_iff_eq.mp h
      exact Or.inr (congrArg some (compareTexts_self s))
    | _ => cases h
  | _ =>
    cases w with
    | number b => cases h
    | _ => exact Or.inl rfl

/-! ### Fields that may be missing -/

theorem fieldsOrder?_swap (v w : Option Value) :
    fieldsOrder? w v = (fieldsOrder? v w).map Ordering.swap := by
  cases v with
  | none => cases w <;> rfl
  | some v =>
    cases w with
    | none => rfl
    | some w => exact order?_swap v w

theorem fieldsOrder?_of_fieldsEq {v w : Option Value} (h : fieldsEq v w = true) :
    fieldsOrder? v w = none ∨ fieldsOrder? v w = some .eq := by
  cases v with
  | none => exact Or.inl rfl
  | some v =>
    cases w with
    | none => exact Or.inl rfl
    | some w => exact order?_of_strictEq h

end Runbook.Value
