import Runbook.Interaction

/-!
# Interactions that agree

Two interactions agree along a relation between stages when, started on related stages, they get the same
reply and leave related stages. Related to itself in this way, an interaction does not read what the
relation leaves open: the log, or the state of the world.
-/

namespace Runbook.Interaction

variable {σ α β : Type} {R : Stage σ → Stage σ → Prop}

def Agree (R : Stage σ → Stage σ → Prop) (x y : Interaction σ α) : Prop :=
  ∀ s t, R s t → (x s).1 = (y t).1 ∧ R (x s).2 (y t).2

theorem agree_pure (a : α) : Agree R (pure a) (pure a) :=
  fun _ _ h => ⟨rfl, h⟩

theorem agree_raise (failure : Failure) :
    Agree R (Dialogue.raise failure : Interaction σ α) (Dialogue.raise failure) :=
  fun _ _ h => ⟨rfl, h⟩

theorem agree_ofExcept (result : Except Failure α) :
    Agree R (Dialogue.ofExcept result) (Dialogue.ofExcept result) := by
  cases result with
  | ok a => exact agree_pure a
  | error failure => exact agree_raise failure

theorem Agree.bind {x y : Interaction σ α} {f g : α → Interaction σ β} (hx : Agree R x y)
    (hf : ∀ a, Agree R (f a) (g a)) : Agree R (x >>= f) (y >>= g) := by
  intro s t h
  obtain ⟨hreply, hafter⟩ := hx s t h
  rw [Dialogue.bind_apply, Dialogue.bind_apply]
  rcases hs : x s with ⟨a | failure | _, after⟩ <;> rcases ht : y t with ⟨b | other | _, later⟩ <;>
    rw [hs, ht] at hreply hafter <;> cases hreply
  · exact hf a after later hafter
  · exact ⟨rfl, hafter⟩
  · exact ⟨rfl, hafter⟩

end Runbook.Interaction
