import Mathlib.Algebra.Order.Ring.Int
import Mathlib.Order.Compare
import Runbook.Number

/-!
# Comparing numbers by exact value

Two numbers are compared as multiples of a power of two that divides both. Which one is taken makes no
difference, so that equality in value passes from one pair to the next, whole and floating-point numbers
mixed. Exchanging the numbers swaps their order, and what is not a number has none: it is equal to nothing,
though it may be the same as itself.
-/

namespace Runbook.Number

namespace Place

theorem compareExact_swap (m₁ e₁ m₂ e₂ : Int) :
    compareExact m₂ e₂ m₁ e₁ = (compareExact m₁ e₁ m₂ e₂).swap := by
  unfold compareExact
  rw [min_comm e₂ e₁]
  exact (Int.compare_swap _ _).symm

theorem compare_swap (x y : Place) : y.compare x = (x.compare y).swap := by
  cases x with
  | exactly m₁ e₁ =>
    cases y with
    | exactly m₂ e₂ => exact compareExact_swap m₁ e₁ m₂ e₂
    | negativeInfinity => rfl
    | positiveInfinity => rfl
  | negativeInfinity => cases y <;> rfl
  | positiveInfinity => cases y <;> rfl

theorem powerOfTwo_sub {e₁ e f : Int} (hf : f ≤ e₁) (he : e ≤ f) :
    Double.powerOfTwo (e₁ - e).toNat
      = Double.powerOfTwo (e₁ - f).toNat * Double.powerOfTwo (f - e).toNat := by
  have hsplit : (e₁ - e).toNat = (e₁ - f).toNat + (f - e).toNat := by omega
  unfold Double.powerOfTwo
  rw [hsplit]
  exact Nat.pow_add _ _ _

/-- Exact values are equal when they are as multiples of any power that is small enough. -/
theorem compareExact_eq_iff {m₁ e₁ m₂ e₂ e : Int} (h₁ : e ≤ e₁) (h₂ : e ≤ e₂) :
    compareExact m₁ e₁ m₂ e₂ = .eq ↔
      m₁ * Double.powerOfTwo (e₁ - e).toNat = m₂ * Double.powerOfTwo (e₂ - e).toNat := by
  have hleast : e ≤ min e₁ e₂ := le_min h₁ h₂
  have hpos : (Double.powerOfTwo (min e₁ e₂ - e).toNat : Int) ≠ 0 := by
    unfold Double.powerOfTwo
    exact Int.natCast_ne_zero.mpr (Nat.pow_pos (by decide)).ne'
  unfold compareExact
  rw [compare_eq_iff_eq, powerOfTwo_sub (min_le_left e₁ e₂) hleast,
    powerOfTwo_sub (min_le_right e₁ e₂) hleast, Int.natCast_mul, Int.natCast_mul, ← mul_assoc,
    ← mul_assoc, mul_left_inj' hpos]

theorem compare_eq_trans {x y z : Place} (hxy : x.compare y = .eq) (hyz : y.compare z = .eq) :
    x.compare z = .eq := by
  cases x with
  | negativeInfinity =>
    cases y with
    | negativeInfinity => exact hyz
    | exactly => cases hxy
    | positiveInfinity => cases hxy
  | positiveInfinity =>
    cases y with
    | positiveInfinity => exact hyz
    | exactly => cases hxy
    | negativeInfinity => cases hxy
  | exactly m₁ e₁ =>
    cases y with
    | negativeInfinity => cases hxy
    | positiveInfinity => cases hxy
    | exactly m₂ e₂ =>
      cases z with
      | negativeInfinity => cases hyz
      | positiveInfinity => cases hyz
      | exactly m₃ e₃ =>
        have h₁ : min e₁ (min e₂ e₃) ≤ e₁ := by omega
        have h₂ : min e₁ (min e₂ e₃) ≤ e₂ := by omega
        have h₃ : min e₁ (min e₂ e₃) ≤ e₃ := by omega
        apply (compareExact_eq_iff h₁ h₃).mpr
        calc m₁ * (Double.powerOfTwo (e₁ - min e₁ (min e₂ e₃)).toNat : Int)
            = m₂ * Double.powerOfTwo (e₂ - min e₁ (min e₂ e₃)).toNat :=
              (compareExact_eq_iff h₁ h₂).mp hxy
          _ = m₃ * Double.powerOfTwo (e₃ - min e₁ (min e₂ e₃)).toNat :=
              (compareExact_eq_iff h₂ h₃).mp hyz

end Place

variable {a b c : Number}

theorem order?_swap (a b : Number) : b.order? a = (a.order? b).map Ordering.swap := by
  unfold order?
  cases a.place? with
  | none => cases b.place? <;> rfl
  | some x =>
    cases b.place? with
    | none => rfl
    | some y => exact congrArg some (Place.compare_swap x y)

theorem eq_iff : a.eq b = true ↔ a.order? b = some .eq := by
  unfold eq
  exact beq_iff_eq

theorem eq_symm (h : a.eq b = true) : b.eq a = true := by
  rw [eq_iff] at h ⊢
  rw [order?_swap, h]
  rfl

theorem eq_trans (hab : a.eq b = true) (hbc : b.eq c = true) : a.eq c = true := by
  rw [eq_iff] at hab hbc ⊢
  unfold order? at hab hbc ⊢
  cases ha : a.place? with
  | none => simp [ha] at hab
  | some x =>
    cases hb : b.place? with
    | none => simp [ha, hb] at hab
    | some y =>
      cases hc : c.place? with
      | none => simp [hb, hc] at hbc
      | some z =>
        simp only [ha, hb, hc, Option.some.injEq] at hab hbc ⊢
        exact Place.compare_eq_trans hab hbc

theorem int_eq_self (n : Int) : (int n).eq (int n) = true := by
  rw [eq_iff]
  exact congrArg some ((Place.compareExact_eq_iff (le_refl 0) (le_refl 0)).mpr rfl)

/-! ### The same number -/

theorem eq_iff_same : a.eq b = true ↔ a.same b = true ∧ a ≠ .double (.nan true) := by
  have hself : (Number.double (.nan true)).eq b = false := rfl
  rw [same, Bool.or_eq_true, Bool.and_eq_true, beq_iff_eq, beq_iff_eq]
  constructor
  · intro h
    refine ⟨.inl h, ?_⟩
    rintro rfl
    rw [hself] at h
    cases h
  · rintro ⟨h | ⟨ha, -⟩, hne⟩
    · exact h
    · exact absurd ha hne

theorem same_of_eq (h : a.eq b = true) : a.same b = true :=
  (eq_iff_same.mp h).1

theorem nan_same_iff : (Number.double (.nan true)).same b = true ↔ b = .double (.nan true) := by
  have hself : (Number.double (.nan true)).eq b = false := rfl
  simp [same, hself]

theorem same_symm (h : a.same b = true) : b.same a = true := by
  by_cases ha : a = .double (.nan true)
  · subst ha
    obtain rfl := nan_same_iff.mp h
    exact h
  · exact same_of_eq (eq_symm (eq_iff_same.mpr ⟨h, ha⟩))

theorem same_trans (hab : a.same b = true) (hbc : b.same c = true) : a.same c = true := by
  by_cases ha : a = .double (.nan true)
  · subst ha
    obtain rfl := nan_same_iff.mp hab
    exact hbc
  · have heq := eq_iff_same.mpr ⟨hab, ha⟩
    have hb : b ≠ .double (.nan true) := (eq_iff_same.mp (eq_symm heq)).2
    exact same_of_eq (eq_trans heq (eq_iff_same.mpr ⟨hbc, hb⟩))

end Runbook.Number
