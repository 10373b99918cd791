import Runbook.Engine
import Runbook.Proofs.Executor.Guard

/-!
# One step of a run

What an executor's reply means to the engine is said once for each kind of reply: a result, something
else, a failure or none at all. A step that lets the run go on has a result, which is filed.
-/

namespace Runbook

namespace Progress

variable {σ τ : Type} (progress : Progress σ τ) (answer : Option LogEntry × τ)

@[simp] theorem record_afterRecording : (progress.afterRecording answer).record = progress.record := by
  rcases answer with ⟨_ | entry, sink⟩ <;> rfl

@[simp] theorem data_afterRecording : (progress.afterRecording answer).data = progress.data := by
  rcases answer with ⟨_ | entry, sink⟩ <;> rfl

end Progress

namespace Engine

variable {σ τ : Type} {engine : Engine σ τ}

/-! ### Invoking an executor -/

variable {step : Step} {progress next : Progress σ τ}

/-- What an executor's reply means to the engine. -/
def judged (step : Step) :
    Reply Returned × Stage σ → Reply (Except EngineFault StepResult) × Stage σ
  | (.answered (.result result), stage) => (.answered (.ok result), stage)
  | (.answered (.foreign kind), stage) => (.answered (.error (.foreignResult step.id kind)), stage)
  | (.raised failure, stage) => (.answered (.error (.escaped step.id failure.message)), stage)
  | (.hung, stage) => (.hung, stage)

section Judged

variable {reply : Reply Returned × Stage σ} {after : Stage σ}

theorem stage_judged (step : Step) (reply : Reply Returned × Stage σ) :
    (judged step reply).2 = reply.2 := by
  rcases reply with ⟨(_ | _) | _ | _, stage⟩ <;> rfl

theorem eq_result_of_judged {result : StepResult}
    (h : judged step reply = (.answered (.ok result), after)) :
    reply = (.answered (.result result), after) := by
  rcases reply with ⟨(found | kind) | failure | _, stage⟩ <;> simp [judged] at h
  obtain ⟨rfl, rfl⟩ := h
  rfl

theorem eq_foreign_or_raised_of_judged {fault : EngineFault}
    (h : judged step reply = (.answered (.error fault), after)) :
    (∃ kind, reply = (.answered (.foreign kind), after)) ∨
      ∃ failure, reply = (.raised failure, after) := by
  rcases reply with ⟨(found | kind) | failure | _, stage⟩ <;> simp [judged] at h
  · exact Or.inl ⟨kind, by rw [h.2]⟩
  · exact Or.inr ⟨failure, by rw [h.2]⟩

theorem hung_of_judged (h : (judged step reply).1 = .hung) : reply.1 = .hung := by
  rcases reply with ⟨(found | kind) | failure | _, stage⟩ <;> simp [judged] at h
  rfl

end Judged

section Invoke

variable {executor : Executor σ} {record : Record} {data : Data} {stage after : Stage σ}

theorem invoke_of_missing (hmissing : engine.registry.find? step.type = none) :
    engine.invoke record data step stage = (.answered (.error (.noExecutor step.type)), stage) := by
  simp only [invoke, hmissing]

theorem invoke_eq_judged (hfound : engine.registry.find? step.type = some executor) :
    engine.invoke record data step stage
      = judged step (executor.run engine.clock engine.registry.deadlines step data
          (warnPending stage record step)) := by
  simp only [invoke, hfound]
  rcases executor.run engine.clock engine.registry.deadlines step data
    (warnPending stage record step) with ⟨(_ | _) | _ | _, finished⟩ <;> rfl

theorem invoke_ne_raised (failure : Failure) :
    (engine.invoke record data step stage).1 ≠ .raised failure := by
  cases hfound : engine.registry.find? step.type with
  | none => simp [invoke_of_missing hfound]
  | some executor =>
    rw [invoke_eq_judged hfound]
    rcases executor.run engine.clock engine.registry.deadlines step data
      (warnPending stage record step) with ⟨(_ | _) | _ | _, finished⟩ <;> simp [judged]

theorem run_of_invoke_ok (hfound : engine.registry.find? step.type = some executor)
    {result : StepResult}
    (h : engine.invoke record data step stage = (.answered (.ok result), after)) :
    executor.run engine.clock engine.registry.deadlines step data (warnPending stage record step)
      = (.answered (.result result), after) := by
  rw [invoke_eq_judged hfound] at h
  exact eq_result_of_judged h

theorem run_of_invoke_error (hfound : engine.registry.find? step.type = some executor)
    {fault : EngineFault}
    (h : engine.invoke record data step stage = (.answered (.error fault), after)) :
    (∃ kind, executor.run engine.clock engine.registry.deadlines step data
        (warnPending stage record step) = (.answered (.foreign kind), after)) ∨
      ∃ failure, executor.run engine.clock engine.registry.deadlines step data
        (warnPending stage record step) = (.raised failure, after) := by
  rw [invoke_eq_judged hfound] at h
  exact eq_foreign_or_raised_of_judged h

theorem hangsOpenly_of_invoke_hung (h : (engine.invoke record data step stage).1 = .hung) :
    ∃ executor, engine.registry.find? step.type = some executor ∧
      executor.HangsOpenly engine.registry.deadlines step data (warnPending stage record step) := by
  cases hfound : engine.registry.find? step.type with
  | none => simp [invoke_of_missing hfound] at h
  | some executor =>
    rw [invoke_eq_judged hfound] at h
    exact ⟨executor, rfl, Executor.hangsOpenly_of_run_hung (Prod.ext (hung_of_judged h) rfl)⟩

end Invoke

@[simp] theorem calls_warnPending (stage : Stage σ) (record : Record) (step : Step) :
    (warnPending stage record step).calls = stage.calls := by
  unfold warnPending
  dsimp only
  split <;> rfl

/-! ### Taking a step -/

/-- A step that lets the run go on has a result, which is filed before anything else changes. -/
theorem takeStep_eq_continued (h : engine.takeStep step progress = .continued next) :
    ∃ result stage record,
      engine.invoke progress.record progress.data step progress.stage
          = (.answered (.ok result), stage) ∧
        progress.record.addResult step.id result = .ok record ∧
        next = engine.recordStep step result
          { progress with record, stage, data := applyOutput step result progress.data } := by
  unfold takeStep at h
  split at h
  · next result stage hinvoke =>
    split at h
    · next record hfiled =>
      exact ⟨result, stage, record, hinvoke, hfiled, (Course.continued.inj h).symm⟩
    · cases h
  · cases h
  · cases h
  · cases h

theorem takeStep_of_filed {result : StepResult} {stage : Stage σ} {record : Record}
    (hinvoke : engine.invoke progress.record progress.data step progress.stage
      = (.answered (.ok result), stage))
    (hfiled : progress.record.addResult step.id result = .ok record) :
    engine.takeStep step progress = .continued (engine.recordStep step result
      { progress with record, stage, data := applyOutput step result progress.data }) := by
  simp only [takeStep, hinvoke, hfiled]

@[simp] theorem record_recordStep (engine : Engine σ τ) (step : Step) (result : StepResult)
    (progress : Progress σ τ) :
    (engine.recordStep step result progress).record = progress.record :=
  progress.record_afterRecording _

@[simp] theorem data_recordStep (engine : Engine σ τ) (step : Step) (result : StepResult)
    (progress : Progress σ τ) :
    (engine.recordStep step result progress).data = progress.data :=
  progress.data_afterRecording _

end Engine

end Runbook
