import Runbook.Definition
import Runbook.Record

/-!
# Keeping the record of a run

A record that accounts for the steps taken so far takes the result of the next one, as long as no step
comes twice, and then accounts for that step as well. Made final, it has one of three shapes, which
exclude each other.
-/

namespace Runbook.Record

variable {record : Record} {taken rest : List Step} {step : Step} {result : StepResult}

theorem addResult_of_fresh {id : String} (hfresh : id ∉ Entries.keys record.results)
    (hroom : record.stepsCompleted < record.totalSteps) :
    record.addResult id result = .ok
      { record with
        results := record.results ++ [(id, result)]
        stepsCompleted := record.stepsCompleted + 1 } := by
  have hhas : Entries.has record.results id = false := by
    simpa [← Entries.has_iff] using hfresh
  simp [addResult, hhas, Int.not_le.mpr hroom, Entries.put_of_fresh hfresh]

/-- A result that is taken comes after those before it. -/
theorem eq_of_addResult {id : String} {next : Record} (h : record.addResult id result = .ok next) :
    id ∉ Entries.keys record.results ∧
      next = { record with
        results := record.results ++ [(id, result)]
        stepsCompleted := record.stepsCompleted + 1 } := by
  unfold addResult at h
  split at h
  · cases h
  · next hhas =>
    have hfresh : id ∉ Entries.keys record.results := by
      rwa [← Entries.has_iff]
    split at h
    · cases h
    · obtain rfl := Except.ok.inj h
      exact ⟨hfresh, by rw [Entries.put_of_fresh hfresh]⟩

theorem mem_results_of_addResult {id : String} {next : Record} {entry : String × StepResult}
    (h : record.addResult id result = .ok next) (hentry : entry ∈ next.results) :
    entry = (id, result) ∨ entry ∈ record.results := by
  obtain ⟨-, rfl⟩ := eq_of_addResult h
  simpa [or_comm] using hentry

/-- The results are those of the steps taken so far, in order, and the total also counts the rest. -/
structure Accounts (record : Record) (taken rest : List Step) : Prop where
  results : Entries.keys record.results = taken.map (·.id)
  completed : record.stepsCompleted = taken.length
  total : record.totalSteps = (taken ++ rest).length

/-- The next step finds room and no result of its own. -/
theorem Accounts.addResult (h : record.Accounts taken (step :: rest))
    (hids : ((taken ++ step :: rest).map (·.id)).Nodup) (result : StepResult) :
    record.addResult step.id result = .ok
      { record with
        results := record.results ++ [(step.id, result)]
        stepsCompleted := record.stepsCompleted + 1 } := by
  refine addResult_of_fresh ?_ ?_
  · rw [h.results]
    intro hmem
    rw [List.map_append, List.map_cons] at hids
    obtain ⟨-, -, hapart⟩ := List.nodup_append.mp hids
    exact hapart step.id hmem step.id List.mem_cons_self rfl
  · rw [h.completed, h.total, List.length_append, List.length_cons]
    omega

theorem Accounts.filed (h : record.Accounts taken (step :: rest)) :
    Accounts
      { record with
        results := record.results ++ [(step.id, result)]
        stepsCompleted := record.stepsCompleted + 1 } (taken ++ [step]) rest where
  results := by simpa [Entries.keys] using h.results
  completed := by simp [h.completed]
  total := by simp [h.total]

/-! ### Final records -/

/-- How a run has ended, as its record tells it. -/
inductive Shape where
  | unloaded
  | aborted (position : Nat)
  | complete
deriving DecidableEq, Repr

/-- The record of a run whose workflow did not load. -/
structure Unloaded (record : Record) : Prop where
  status : record.status = .failed
  error : record.error ≠ none
  errorStatus : record.errorStatus = some 404 ∨ record.errorStatus = some 422 ∨
    record.errorStatus = some 500
  results : record.results = []
  completed : record.stepsCompleted = 0
  total : record.totalSteps = 0

/-- The record of a run that was given up at the step in this position. -/
structure AbortedAt (record : Record) (order : List Step) (position : Nat) : Prop where
  status : record.status = .failed
  error : record.error ≠ none
  errorStatus : record.errorStatus = some 500
  results : Entries.keys record.results = (order.take position).map (·.id)
  completed : record.stepsCompleted = position
  early : position < order.length
  total : record.totalSteps = order.length

/-- The record of a run that took all of its steps. -/
structure Complete (record : Record) (order : List Step) : Prop where
  status : record.status = .completed
  error : record.error = none
  errorStatus : record.errorStatus = none
  results : Entries.keys record.results = order.map (·.id)
  completed : record.stepsCompleted = order.length
  total : record.totalSteps = order.length

def HasShape (record : Record) (order : List Step) : Shape → Prop
  | .unloaded => record.Unloaded
  | .aborted position => record.AbortedAt order position
  | .complete => record.Complete order

variable {order : List Step}

theorem AbortedAt.not_unloaded {position : Nat} (h : record.AbortedAt order position) :
    ¬ record.Unloaded := by
  intro hunloaded
  -- A run that was given up had a step to give up at; one that did not load counts no steps.
  have htotal := h.total
  have hearly := h.early
  rw [hunloaded.total] at htotal
  omega

theorem Complete.status_ne_failed (h : record.Complete order) : record.status ≠ .failed := by
  rw [h.status]
  decide

/-- A record has no two shapes, whatever the steps are. -/
theorem HasShape.unique {shape other : Shape} {others : List Step}
    (h : record.HasShape order shape) (hother : record.HasShape others other) : other = shape := by
  cases shape with
  | unloaded =>
    cases other with
    | unloaded => rfl
    | aborted position => exact absurd h hother.not_unloaded
    | complete => exact absurd h.status hother.status_ne_failed
  | aborted position =>
    cases other with
    | unloaded => exact absurd hother h.not_unloaded
    | aborted found =>
      have hposition : (found : Int) = position := hother.completed.symm.trans h.completed
      rw [Int.ofNat_inj.mp hposition]
    | complete => exact absurd h.status hother.status_ne_failed
  | complete =>
    cases other with
    | unloaded => exact absurd hother.status h.status_ne_failed
    | aborted position => exact absurd hother.status h.status_ne_failed
    | complete => rfl

theorem Accounts.complete (h : record.Accounts order []) (now : Instant) :
    (record.finish .completed none none now).Complete order where
  status := rfl
  error := rfl
  errorStatus := rfl
  results := h.results
  completed := h.completed
  total := by simpa [finish] using h.total

theorem Accounts.aborted (h : record.Accounts taken (step :: rest)) (error : String)
    (now : Instant) :
    (record.finish .failed (some error) (some 500) now).AbortedAt (taken ++ step :: rest)
      taken.length where
  status := rfl
  error := Option.some_ne_none error
  errorStatus := rfl
  results := by simpa [finish] using h.results
  completed := h.completed
  early := by simp
  total := h.total

end Runbook.Record
