import Mathlib.Data.List.Induction
import Mathlib.Data.List.Nodup
import Runbook.Proofs.Record

/-!
# Records under any calls

Whatever is asked of a record, and in whatever order, it holds the first result of each step among those
handed in, for as many steps as there are. A call that is refused leaves no trace, and to declare a record
finished changes nothing about its results.
-/

namespace Runbook

/-- What can be asked of a record. -/
inductive RecordCall where
  | addResult (step : String) (result : StepResult)
  | finish (status : Status) (error : Option String) (errorStatus : Option Int) (now : Instant)
deriving Repr

def RecordCall.entry? : RecordCall → Option (String × StepResult)
  | .addResult step result => some (step, result)
  | .finish .. => none

/-- The results handed in by calls, refused or not. -/
def handedIn (calls : List RecordCall) : Entries StepResult :=
  calls.filterMap RecordCall.entry?

namespace Record

/-- The record of a run of so many steps that begins now. -/
def opened (executionId workflowId userId : String) (trigger : Trigger) (metadata : Value.Fields)
    (now : Instant) (total : Nat) : Record :=
  { begin executionId workflowId userId trigger metadata now with totalSteps := total }

/-- The record after a call; one that is refused leaves the record as it is. -/
def perform (record : Record) : RecordCall → Record
  | .addResult step result => match record.addResult step result with
    | .ok next => next
    | .error _ => record
  | .finish status error errorStatus now => record.finish status error errorStatus now

def performAll (record : Record) (calls : List RecordCall) : Record :=
  calls.foldl perform record

/-- The results among the calls that are not refused, in the order of these calls. -/
def accepted (record : Record) : List RecordCall → Entries StepResult
  | [] => []
  | .addResult step result :: rest => match record.addResult step result with
    | .ok next => (step, result) :: next.accepted rest
    | .error _ => record.accepted rest
  | .finish status error errorStatus now :: rest =>
    (record.finish status error errorStatus now).accepted rest

variable {record : Record} {id : String} {result : StepResult} {calls : List RecordCall}

theorem addResult_error_iff :
    (∃ error, record.addResult id result = .error error) ↔
      id ∈ Entries.keys record.results ∨ record.totalSteps ≤ record.stepsCompleted := by
  by_cases htaken : id ∈ Entries.keys record.results
  · simp [addResult, Entries.has_iff, htaken]
  · by_cases hfull : record.totalSteps ≤ record.stepsCompleted
    · simp [addResult, Entries.has_iff, htaken, hfull]
    · simp [addResult, Entries.has_iff, htaken, hfull]

theorem perform_of_refused {error : RecordError} (h : record.addResult id result = .error error) :
    record.perform (.addResult id result) = record := by
  simp only [perform, h]

theorem performAll_append (record : Record) (calls later : List RecordCall) :
    record.performAll (calls ++ later) = (record.performAll calls).performAll later :=
  List.foldl_append

theorem results_performAll (record : Record) (calls : List RecordCall) :
    (record.performAll calls).results = record.results ++ record.accepted calls := by
  induction calls generalizing record with
  | nil => exact (List.append_nil _).symm
  | cons call rest ih =>
    have hrest := ih (record.perform call)
    rw [performAll, List.foldl_cons, ← performAll, hrest]
    cases call with
    | finish => rfl
    | addResult step result =>
      simp only [accepted]
      cases hadd : record.addResult step result with
      | error error => simp only [perform, hadd]
      | ok next =>
        obtain ⟨-, rfl⟩ := eq_of_addResult hadd
        simp only [perform, hadd, List.append_assoc, List.singleton_append]

theorem get?_results_performAll (h : Entries.get? record.results id = some result)
    (later : List RecordCall) :
    Entries.get? (record.performAll later).results id = some result := by
  rw [results_performAll, Entries.get?_append, h]
  rfl

/-! ### What is kept -/

/-- The record of a run of so many steps after these results have been handed in. -/
structure WellKept (steps : Nat) (handed : Entries StepResult) (record : Record) : Prop where
  total : record.totalSteps = steps
  completed : record.stepsCompleted = record.results.length
  room : record.results.length ≤ steps
  nodup : (Entries.keys record.results).Nodup
  names : Entries.keys record.results = (Entries.keys handed).eraseDups.take steps
  first : ∀ id result, Entries.get? record.results id = some result →
    Entries.get? handed id = some result

variable {steps : Nat} {handed : Entries StepResult}

theorem wellKept_opened (executionId workflowId userId : String) (trigger : Trigger)
    (metadata : Value.Fields) (now : Instant) (steps : Nat) :
    (opened executionId workflowId userId trigger metadata now steps).WellKept steps [] where
  total := rfl
  completed := rfl
  room := Nat.zero_le steps
  nodup := .nil
  names := List.take_nil.symm
  first := nofun

theorem WellKept.refuses_iff (h : record.WellKept steps handed) :
    (∃ error, record.addResult id result = .error error) ↔
      id ∈ Entries.keys record.results ∨ record.stepsCompleted = steps := by
  have hroom := h.room
  rw [addResult_error_iff, h.total, h.completed]
  refine or_congr_right ?_
  omega

/-- A result handed in anew comes after those there are already. -/
theorem WellKept.first_concat (h : record.WellKept steps handed) (id : String)
    (result : StepResult) (other : String) (found : StepResult)
    (hget : Entries.get? record.results other = some found) :
    Entries.get? (handed ++ [(id, result)]) other = some found := by
  rw [Entries.get?_append, h.first other found hget]
  rfl

/-- The names do not change by a result that is refused: it is there already, or there is no room. -/
theorem WellKept.names_of_refused (h : record.WellKept steps handed)
    (hrefused : id ∈ Entries.keys record.results ∨ record.stepsCompleted = steps) :
    Entries.keys record.results = (Entries.keys handed ++ [id]).eraseDups.take steps := by
  rw [Entries.eraseDups_concat]
  split
  · exact h.names
  · next hfresh =>
    have hlength : (Entries.keys record.results).length = record.results.length := List.length_map _
    rcases hrefused with htaken | hfull
    · rw [h.names] at htaken
      exact absurd (List.mem_eraseDups.mp (List.mem_of_mem_take htaken)) hfresh
    · have hcompleted := h.completed
      have hnames := congrArg List.length h.names
      rw [hlength, List.length_take] at hnames
      have henough : steps ≤ (Entries.keys handed).eraseDups.length := by omega
      rw [List.take_append_of_le_length henough]
      exact h.names

/-- Where there is room, all names so far are there. -/
theorem WellKept.names_eq_of_room (h : record.WellKept steps handed)
    (hroom : record.stepsCompleted ≠ steps) :
    Entries.keys record.results = (Entries.keys handed).eraseDups ∧
      (Entries.keys handed).eraseDups.length < steps := by
  have hlength : (Entries.keys record.results).length = record.results.length := List.length_map _
  have hcompleted := h.completed
  have hle := h.room
  have hnames := congrArg List.length h.names
  rw [hlength, List.length_take] at hnames
  have hfew : (Entries.keys handed).eraseDups.length < steps := by omega
  exact ⟨h.names.trans (List.take_of_length_le (Nat.le_of_lt hfew)), hfew⟩

theorem WellKept.accept (h : record.WellKept steps handed)
    (hfresh : id ∉ Entries.keys record.results) (hroom : record.stepsCompleted ≠ steps) :
    WellKept steps (handed ++ [(id, result)])
      { record with
        results := record.results ++ [(id, result)]
        stepsCompleted := record.stepsCompleted + 1 } := by
  obtain ⟨hnames, hfew⟩ := h.names_eq_of_room hroom
  have hnew : id ∉ Entries.keys handed := by
    rw [hnames, List.mem_eraseDups] at hfresh
    exact hfresh
  have hcompleted := h.completed
  have hle := h.room
  constructor
  case total => exact h.total
  case completed => simp [hcompleted]
  case room =>
    simp only [List.length_append, List.length_singleton]
    omega
  case nodup =>
    rw [Entries.keys_concat, ← List.concat_eq_append]
    exact h.nodup.concat hfresh
  case names =>
    rw [Entries.keys_concat, Entries.keys_concat, Entries.eraseDups_concat, if_neg hnew, ← hnames,
      List.take_of_length_le]
    rw [List.length_append, List.length_singleton, hnames]
    exact hfew
  case first =>
    intro other found hget
    rw [Entries.get?_append] at hget ⊢
    cases hbefore : Entries.get? record.results other with
    | some before =>
      rw [hbefore] at hget
      rw [h.first other before hbefore]
      exact hget
    | none =>
      have hmissing : Entries.get? handed other = none := by
        rw [← Option.not_isSome_iff_eq_none, Entries.get?_isSome_iff, ← List.mem_eraseDups, ← hnames,
          ← Entries.get?_isSome_iff, hbefore]
        decide
      rw [hbefore] at hget
      rw [hmissing]
      exact hget

/-- One result handed in. -/
theorem WellKept.addResult (h : record.WellKept steps handed) (id : String) (result : StepResult) :
    (record.perform (.addResult id result)).WellKept steps (handed ++ [(id, result)]) := by
  cases hadd : record.addResult id result with
  | error error =>
    have hrefused := h.refuses_iff.mp ⟨error, hadd⟩
    rw [perform_of_refused hadd]
    exact {
      h with
      names := by
        rw [Entries.keys_concat]
        exact h.names_of_refused hrefused
      first := h.first_concat id result }
  | ok next =>
    have haccepted : ¬ ∃ error, record.addResult id result = .error error := by
      rw [hadd]
      rintro ⟨error, ⟨⟩⟩
    rw [h.refuses_iff, not_or] at haccepted
    obtain ⟨-, rfl⟩ := eq_of_addResult hadd
    simp only [perform, hadd]
    exact h.accept haccepted.1 haccepted.2

theorem WellKept.perform (h : record.WellKept steps handed) (call : RecordCall) :
    (record.perform call).WellKept steps (handed ++ handedIn [call]) := by
  cases call with
  | addResult id result => exact h.addResult id result
  | finish =>
    rw [show handedIn [RecordCall.finish _ _ _ _] = [] from rfl, List.append_nil]
    exact ⟨h.total, h.completed, h.room, h.nodup, h.names, h.first⟩

theorem WellKept.performAll (h : record.WellKept steps []) (calls : List RecordCall) :
    (record.performAll calls).WellKept steps (handedIn calls) := by
  induction calls using List.reverseRecOn with
  | nil => exact h
  | append_singleton calls call ih =>
    have hhanded : handedIn (calls ++ [call]) = handedIn calls ++ handedIn [call] :=
      List.filterMap_append
    rw [performAll_append, hhanded]
    exact ih.perform call

/-- **Records are kept well, whatever is asked of them.** -/
theorem kept_under_any_calls (executionId workflowId userId : String) (trigger : Trigger)
    (metadata : Value.Fields) (start : Instant) (steps : Nat) (calls : List RecordCall) :
    let opening := opened executionId workflowId userId trigger metadata start steps
    let record := opening.performAll calls
    record.WellKept steps (handedIn calls) ∧ record.results = opening.accepted calls ∧
      (∀ id result,
        ((∃ error, record.addResult id result = .error error) ↔
          id ∈ Entries.keys record.results ∨ record.stepsCompleted = steps) ∧
        ∀ error, record.addResult id result = .error error →
          record.perform (.addResult id result) = record) ∧
      (∀ later id result, Entries.get? record.results id = some result →
        Entries.get? (record.performAll later).results id = some result) ∧
      ∀ status error errorStatus now,
        let ended := record.finish status error errorStatus now
        ended.results = record.results ∧ ended.stepsCompleted = record.stepsCompleted ∧
          ended.totalSteps = record.totalSteps := by
  intro opening record
  have hkept : record.WellKept steps (handedIn calls) :=
    (wellKept_opened executionId workflowId userId trigger metadata start steps).performAll calls
  refine ⟨hkept, results_performAll opening calls, fun id result => ?_, ?_, ?_⟩
  · exact ⟨hkept.refuses_iff, fun error h => perform_of_refused h⟩
  · intro later id result h
    exact get?_results_performAll h later
  · intro status error errorStatus now
    exact ⟨rfl, rfl, rfl⟩

end Record

namespace Sample

/-- A result, another one for the same step, the end, and a result for a step too many. -/
def crowded : List RecordCall :=
  [.addResult "a" (.succeeded .null), .addResult "a" (.failed none),
    .finish .completed none none ⟨0⟩, .addResult "b" (.succeeded .null)]

def crowdedRecord : Record :=
  (Record.opened "run" "wf" "user" .manual [] ⟨0⟩ 1).performAll crowded

theorem crowdedRecord_kept :
    crowdedRecord.WellKept 1 (handedIn crowded) ∧
      Entries.get? crowdedRecord.results "a" = some (.succeeded .null) ∧
      (∃ error, crowdedRecord.addResult "b" (.succeeded .null) = .error error) ∧
      Entries.get? (crowdedRecord.performAll crowded).results "a" = some (.succeeded .null) := by
  obtain ⟨hkept, -, hrefuses, hstays, -⟩ :=
    Record.kept_under_any_calls "run" "wf" "user" .manual [] ⟨0⟩ 1 crowded
  have hstored : Entries.get? crowdedRecord.results "a" = some (.succeeded .null) := rfl
  have hfull : crowdedRecord.stepsCompleted = 1 := rfl
  exact ⟨hkept, hstored, (hrefuses "b" _).1.mpr (Or.inr hfull), hstays crowded "a" _ hstored⟩

end Sample

end Runbook
