import Runbook.Proofs.Schema

/-!
# Values that are read alike

Two relations on what decoders give are kept by all the ways in which decoders are put together: to be the
same, and to be the same value or both rejected. So a change to a part of a value that its own decoder does
not notice is not noticed by the whole.
-/

namespace Runbook.Schema

open Decoded

/-- The value that was accepted. -/
def Decoded.value? {α : Type} : Decoded α → Option α
  | .valid a => some a
  | .invalid _ => none

/-- A relation on decoded values that is kept when they are put together. -/
structure Congruence (R : ∀ α : Type, Decoded α → Decoded α → Prop) : Prop where
  refl {α : Type} (x : Decoded α) : R α x x
  under {α : Type} {x y : Decoded α} (h : R α x y) (name : String) :
    R α (x.under name) (y.under name)
  map {α β : Type} {x y : Decoded α} (h : R α x y) (f : α → β) : R β (x.map f) (y.map f)
  part {α β : Type} {f g : Decoded (α → β)} {x y : Decoded α} (hf : R (α → β) f g) (hx : R α x y) :
    R β (f.part x) (g.part y)

theorem congruence_eq : Congruence fun _ x y => x = y where
  refl _ := rfl
  under h _ := by rw [h]
  map h _ := by rw [h]
  part hf hx := by rw [hf, hx]

theorem congruence_value : Congruence fun _ x y => x.value? = y.value? where
  refl _ := rfl
  under {_ x y} h _ := by cases x <;> cases y <;> simp_all [value?, under]
  map {_ _ x y} h _ := by cases x <;> cases y <;> simp_all [value?, map]
  part {_ _ f g x y} hf hx := by
    cases f <;> cases g <;> cases x <;> cases y <;> simp_all [value?, part]

namespace Congruence

variable {R : ∀ α : Type, Decoded α → Decoded α → Prop} (hR : Congruence R) {α : Type}
  {decode : Decoder α} {v w : Value}

include hR

theorem itemsFrom_replaced (h : R α (decode v) (decode w)) (before after : List Value)
    (position : Nat) :
    R (List α) (itemsFrom decode position (before ++ v :: after))
      (itemsFrom decode position (before ++ w :: after)) := by
  induction before generalizing position with
  | nil => exact hR.part (hR.map (hR.under h _) _) (hR.refl _)
  | cons first rest ih => exact hR.part (hR.refl _) (ih (position + 1))

theorem list_replaced (h : R α (decode v) (decode w)) (before after : List Value) :
    R (List α) (list decode (.list (before ++ v :: after)))
      (list decode (.list (before ++ w :: after))) :=
  hR.itemsFrom_replaced h before after 0

section Replaced

variable {name : String} (front back : Value.Fields)

theorem required_replaced (h : R α (decode v) (decode w)) :
    R α (required (front ++ (name, v) :: back) [name] decode)
      (required (front ++ (name, w) :: back) [name] decode) := by
  simp only [required_single, Entries.get?_append]
  cases Entries.get? front name with
  | none => simpa [Entries.get?] using hR.under h name
  | some u => exact hR.refl _

theorem optional_replaced (h : R α (decode v) (decode w)) (default : α) :
    R α (optional (front ++ (name, v) :: back) [name] default decode)
      (optional (front ++ (name, w) :: back) [name] default decode) := by
  simp only [optional_single, Entries.get?_append]
  cases Entries.get? front name with
  | none => simpa [Entries.get?] using hR.under h name
  | some u => exact hR.refl _

end Replaced

end Congruence

end Runbook.Schema
