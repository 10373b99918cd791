import Runbook.ExecutionLog
import Runbook.Proofs.Engine.Ending
import Runbook.Proofs.Recorder

/-!
# What a run records

An engine whose sink is watched runs as it does with the sink alone. Seen this way, a run files a result
and its entry together, so that the entries of steps are at every point those of the results in the
record, and the entry of the run comes after them, once, when the record is final.
-/

namespace Runbook

/-! ### Watched runs -/

section Unwatched

variable {σ τ : Type}

/-- A point of a run, without the calls of its sink. -/
def Progress.unwatched (progress : Progress σ (τ × List SinkCall)) : Progress σ τ where
  record := progress.record
  data := progress.data
  stage := progress.stage
  sink := progress.sink.1

def Course.unwatched : Course σ (τ × List SinkCall) → Course σ τ
  | .continued progress => .continued progress.unwatched
  | .faulted fault progress => .faulted fault progress.unwatched
  | .escaped failure progress => .escaped failure progress.unwatched
  | .stalled progress => .stalled progress.unwatched

def Run.unwatched (run : Run σ (τ × List SinkCall)) : Run σ τ where
  ending := run.ending
  stage := run.stage
  sink := run.sink.1

theorem Progress.unwatched_afterRecording (progress : Progress σ (τ × List SinkCall))
    (entry : Option LogEntry) (state : τ × List SinkCall) :
    (progress.afterRecording (entry, state)).unwatched
      = progress.unwatched.afterRecording (entry, state.1) := by
  cases entry <;> rfl

theorem Progress.sink_afterRecording (progress : Progress σ τ) (answer : Option LogEntry × τ) :
    (progress.afterRecording answer).sink = answer.2 := by
  rcases answer with ⟨_ | entry, sink⟩ <;> rfl

end Unwatched

namespace Engine

variable {σ τ : Type} (engine : Engine σ τ)

def watched : Engine σ (τ × List SinkCall) where
  clock := engine.clock
  lookup := engine.lookup
  registry := engine.registry
  recorder := engine.recorder.watched
  byDependency := engine.byDependency

theorem unwatched_recordStep (step : Step) (result : StepResult)
    (progress : Progress σ (τ × List SinkCall)) :
    (engine.watched.recordStep step result progress).unwatched
      = engine.recordStep step result progress.unwatched := by
  unfold recordStep
  rw [show engine.watched.recorder = engine.recorder.watched from rfl, Recorder.recordStep_watched,
    Progress.unwatched_afterRecording]
  rfl

theorem unwatched_takeStep (step : Step) (progress : Progress σ (τ × List SinkCall)) :
    (engine.watched.takeStep step progress).unwatched
      = engine.takeStep step progress.unwatched := by
  have hinvoke : engine.watched.invoke progress.record progress.data step progress.stage
      = engine.invoke progress.unwatched.record progress.unwatched.data step
          progress.unwatched.stage := rfl
  unfold takeStep
  rw [hinvoke]
  rcases engine.invoke progress.unwatched.record progress.unwatched.data step
    progress.unwatched.stage with ⟨(fault | result) | failure | _, stage⟩
  · rfl
  · simp only [Progress.unwatched]
    cases progress.record.addResult step.id result with
    | ok record => exact congrArg Course.continued (engine.unwatched_recordStep step result _)
    | error error => rfl
  · rfl
  · rfl

theorem unwatched_takeSteps (steps : List Step) (progress : Progress σ (τ × List SinkCall)) :
    (engine.watched.takeSteps steps progress).unwatched
      = engine.takeSteps steps progress.unwatched := by
  induction steps generalizing progress with
  | nil => rfl
  | cons step rest ih =>
    have hstep := engine.unwatched_takeStep step progress
    simp only [takeSteps, ← hstep]
    cases engine.watched.takeStep step progress with
    | continued next => exact ih next
    | faulted fault next => rfl
    | escaped failure next => rfl
    | stalled next => rfl

theorem unwatched_finish (status : Status) (error : Option String) (errorStatus : Option Int)
    (progress : Progress σ (τ × List SinkCall)) :
    (engine.watched.finish status error errorStatus progress).unwatched
      = engine.finish status error errorStatus progress.unwatched := by
  unfold finish
  rw [show engine.watched.recorder = engine.recorder.watched from rfl]
  simp only [Recorder.record_watched, Progress.unwatched_afterRecording]
  rfl

theorem unwatched_conclude (course : Course σ (τ × List SinkCall)) :
    (engine.watched.conclude course).unwatched = engine.conclude course.unwatched := by
  cases course with
  | continued progress =>
    have hrecord : progress.unwatched.record = progress.record := rfl
    simp only [conclude, Course.unwatched, hrecord]
    split
    · exact congrArg finished (engine.unwatched_finish _ _ _ progress)
    · exact congrArg finished (engine.unwatched_finish _ _ _ (progress.note ..))
  | faulted fault progress =>
    exact congrArg finished (engine.unwatched_finish _ _ _ (progress.note ..))
  | escaped failure progress => rfl
  | stalled progress => rfl

theorem unwatched_execute (id : String) (request : RunRequest) (stage : Stage σ)
    (state : τ × List SinkCall) :
    (engine.watched.execute id request stage state).unwatched
      = engine.execute id request stage state.1 := by
  have hload : engine.watched.load = engine.load := rfl
  simp only [execute, hload]
  rcases engine.load request.workflowId _ with ⟨(failure | definition) | failure | _, after⟩
  · exact congrArg finished (engine.unwatched_finish _ _ _ _)
  · simp only [runSteps]
    rw [show engine.watched.byDependency = engine.byDependency from rfl]
    cases Schedule.order definition.steps engine.byDependency with
    | error error => rfl
    | ok steps =>
      refine (engine.unwatched_conclude _).trans (congrArg engine.conclude ?_)
      exact engine.unwatched_takeSteps steps _
  · rfl
  · rfl

end Engine

/-! ### Entries of steps -/

/-- The entries of steps tell of a record: there is one for each of its results, in their order. -/
structure Record.ToldBy (record : Record) (entries : List StepEntry) : Prop where
  results : entries.map (fun entry => (entry.step, entry.result)) = record.results
  run : ∀ entry ∈ entries,
    entry.executionId = record.executionId ∧ entry.workflowId = record.workflowId

namespace Record.ToldBy

variable {record next : Record} {entries : List StepEntry} {entry : StepEntry}

theorem filed (h : record.ToldBy entries)
    (hfiled : record.addResult entry.step entry.result = .ok next)
    (hexecution : entry.executionId = record.executionId)
    (hworkflow : entry.workflowId = record.workflowId) : next.ToldBy (entries ++ [entry]) := by
  obtain ⟨-, rfl⟩ := eq_of_addResult hfiled
  constructor
  · simp [h.results]
  · simpa [or_imp, forall_and, hexecution, hworkflow] using h.run

theorem shown (h : record.ToldBy entries) (hkeys : (Entries.keys record.results).Nodup)
    (hentry : entry ∈ entries) (render : Datum → Value) :
    ∃ shown, record.resultsValue render = .object shown ∧
      Entries.get? shown entry.step = some (.object (entry.result.fields render)) := by
  have hmem : (entry.step, entry.result) ∈ record.results := by
    rw [← h.results]
    exact List.mem_map_of_mem hentry
  exact ⟨_, rfl, by rw [Entries.get?_mapValues, Entries.get?_of_mem hkeys hmem, Option.map_some]⟩

end Record.ToldBy

namespace Engine

variable {σ τ : Type} {engine : Engine σ τ}

def stepCallsFor (engine : Engine σ τ) (entries : List StepEntry) : List SinkCall :=
  if engine.recorder.stepsWanted then entries.map .appendStep else []

/-- So far, the sink was called for the results of steps and nothing else. -/
def Told (engine : Engine σ τ) (progress : Progress σ (τ × List SinkCall)) : Prop :=
  ∃ entries, progress.record.ToldBy entries ∧ progress.sink.2 = engine.stepCallsFor entries

/-- The run has a final record, for which the sink was called once, and before that for its results. -/
def RecordedOnce (engine : Engine σ τ) (run : Run σ (τ × List SinkCall)) : Prop :=
  ∃ record data entries, run.ending = .finished record data ∧
    (record.status = .completed ∨ record.status = .failed) ∧ record.ToldBy entries ∧
    run.sink.2 = engine.stepCallsFor entries ++ [.append { record, data }]

section Watched

variable {target : Sink τ} (hsink : engine.recorder.sink = some target)
include hsink

theorem Told.takeStep {step : Step} {progress next : Progress σ (τ × List SinkCall)}
    (h : engine.Told progress) (htaken : engine.watched.takeStep step progress = .continued next) :
    engine.Told next := by
  obtain ⟨entries, htold, hcalls⟩ := h
  obtain ⟨result, stage, record, -, hfiled, rfl⟩ := takeStep_eq_continued htaken
  refine ⟨entries ++ [
    { executionId := record.executionId
      workflowId := record.workflowId
      step := step.id
      result
      data := applyOutput step result progress.data }], ?_, ?_⟩
  · rw [record_recordStep]
    obtain ⟨-, hrecord⟩ := Record.eq_of_addResult hfiled
    exact htold.filed hfiled (by rw [hrecord]) (by rw [hrecord])
  · rw [recordStep, Progress.sink_afterRecording,
      show engine.watched.recorder = engine.recorder.watched from rfl, Recorder.recordStep_watched,
      engine.recorder.stepCalls_of_sink hsink]
    simp only [hcalls, stepCallsFor]
    split
    · rw [List.map_append]
      rfl
    · rfl

theorem Told.finish {progress : Progress σ (τ × List SinkCall)} (h : engine.Told progress)
    {status : Status} (hstatus : status = .completed ∨ status = .failed) (error : Option String)
    (errorStatus : Option Int) :
    engine.RecordedOnce
      (finished (engine.watched.finish status error errorStatus progress)) := by
  obtain ⟨entries, htold, hcalls⟩ := h
  refine ⟨_, _, entries, rfl, ?_, ?_, ?_⟩
  · rwa [record_finish]
  · rw [record_finish]
    exact ⟨htold.results, htold.run⟩
  · rw [record_finish, data_finish, ← hcalls, ← engine.recorder.runCalls_of_sink hsink]
    rw [finished, Engine.finish, Progress.sink_afterRecording,
      show engine.watched.recorder = engine.recorder.watched from rfl, Recorder.record_watched]
    rfl

theorem Told.conclude {left : List Step} {last : Progress σ (τ × List SinkCall)}
    {course : Course σ (τ × List SinkCall)} (h : engine.Told last)
    (hstops : engine.watched.Stops left last course) :
    engine.RecordedOnce (engine.watched.conclude course) ∨
      (engine.watched.conclude course).ending = .stalled ∧
        ∃ entries, (engine.watched.conclude course).sink.2 = engine.stepCallsFor entries := by
  have hcompleted : Status.completed = .completed ∨ Status.completed = .failed := Or.inl rfl
  cases hstops with
  | done =>
    refine Or.inl ?_
    simp only [Engine.conclude]
    -- What is logged before the end does not matter to the sink.
    split
    all_goals
      refine Told.finish hsink ?_ hcompleted none none
      exact h
  | faulted hinvoke =>
    refine Or.inl (Told.finish hsink ?_ (Or.inr rfl) _ _)
    exact h
  | stalled hinvoke =>
    obtain ⟨entries, -, hcalls⟩ := h
    exact Or.inr ⟨rfl, entries, hcalls⟩

variable {id : String} {request : RunRequest} {stage : Stage σ}

end Watched

/-! ### Whole runs -/

section Run

variable (hparsed : engine.LooksUpParsed) {id : String} {request : RunRequest} {stage : Stage σ}
  {state : τ} {record : Record} {data : Data}
include hparsed

end Run

end Engine

namespace Sample

/-- An executor of conditions that does not keep to the rules when it comes to the step `second`. -/
def unruly : Executor Unit where
  type := .condition
  displayName := "Unruly"
  description := "Checks that do not always report"
  configSchema := .null
  procedure := .bare fun step _ =>
    pure (if step.id == "second" then .foreign "dict" else .result (.succeeded .null))

def loggingEngine : Engine Unit ExecutionLog where
  clock := engine.clock
  lookup := engine.lookup
  registry := engine.registry.register unruly
  recorder := { sink := some ExecutionLog.sink, stepsWanted := true }
  byDependency := true

end Sample

end Runbook
