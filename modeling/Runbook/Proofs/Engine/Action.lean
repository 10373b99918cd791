import Mathlib.Algebra.Order.Group.Multiset
import Runbook.ExecutionLog
import Runbook.Proofs.Engine.Reordering

/-!
# The actions of a run

A run is cut into actions: it loads its workflow, lets an executor take a step, has the result of a step
recorded or has itself recorded. Taken one after another they come to what the engine makes of the
submission. Between two of them a run keeps nothing but its phase. With services that have no memory an
action leads from phase to phase whatever the world and the sink have become, and it adds the entry of
the run to the sink exactly when it ends the run with a final record.
-/

namespace Runbook

variable {σ τ : Type}

/-- Where a run stands between two of its actions. -/
inductive Phase where
  | submitted (id : String) (submission : Submission)
  | unloadable (failure : LoadFailure) (record : Record)
  | stepping (steps : List Step) (record : Record) (data : Data)
  /-- The result of a step is in the record of the run, and has not been recorded by itself. -/
  | filing (step : Step) (result : StepResult) (rest : List Step) (record : Record) (data : Data)
  | aborting (fault : EngineFault) (record : Record) (data : Data)
  | ended (ending : Ending)

def Phase.isEnded : Phase → Bool
  | .ended _ => true
  | _ => false

theorem Phase.isEnded_iff {phase : Phase} : phase.isEnded = true ↔ ∃ ending, phase = .ended ending := by
  cases phase <;> simp [isEnded]

/-- A run in its turn, with the stage and the sink as it finds or leaves them. -/
structure Turn (σ τ : Type) where
  phase : Phase
  stage : Stage σ
  sink : τ

/-- The turn of a run that has come to its end. -/
def Run.turn (run : Run σ τ) : Turn σ τ where
  phase := .ended run.ending
  stage := run.stage
  sink := run.sink

namespace Engine

/-! ### Actions -/

/-- The run of a request after its workflow has been looked up. -/
def afterLoad (engine : Engine σ τ) (request : RunRequest) (record : Record) (sink : τ) :
    Reply (Except LoadFailure Definition) × Stage σ → Turn σ τ
  | (.answered (.ok definition), stage) =>
    match Schedule.order definition.steps engine.byDependency with
    | .ok steps =>
      { phase := .stepping steps { record with totalSteps := steps.length, status := .running }
          request.initialData
        stage, sink }
    | .error error => { phase := .ended (.escaped error.toFailure), stage, sink }
  | (.answered (.error failure), stage) =>
    { phase := .unloadable failure record
      stage := { stage with log := stage.log ++ [failure.logEntry] }
      sink }
  | (.raised failure, stage) => { phase := .ended (.escaped failure), stage, sink }
  | (.hung, stage) => { phase := .ended .stalled, stage, sink }

/-- A run after an executor has taken a step. The result is filed and its output applied at once. -/
def afterInvoke (step : Step) (rest : List Step) (record : Record) (data : Data) (sink : τ) :
    Reply (Except EngineFault StepResult) × Stage σ → Turn σ τ
  | (.answered (.ok result), stage) =>
    match record.addResult step.id result with
    | .ok record =>
      { phase := .filing step result rest record (applyOutput step result data), stage, sink }
    | .error error => { phase := .ended (.escaped error.toFailure), stage, sink }
  | (.answered (.error fault), stage) => { phase := .aborting fault record data, stage, sink }
  | (.raised failure, stage) => { phase := .ended (.escaped failure), stage, sink }
  | (.hung, stage) => { phase := .ended .stalled, stage, sink }

/-- The next action of a run. One that has ended does nothing. -/
def act (engine : Engine σ τ) : Turn σ τ → Turn σ τ
  | ⟨.submitted id submission, stage, sink⟩ =>
    match submission.accept with
    | .error error => { phase := .ended (.refused error), stage, sink }
    | .ok request =>
      engine.afterLoad request
        (.begin id request.workflowId request.userId request.trigger request.metadata
          (engine.clock stage.world))
        sink (engine.load request.workflowId (greeted request stage))
  | ⟨.unloadable failure record, stage, sink⟩ =>
    (finished (engine.finish .failed (some failure.message) (some failure.status)
      { record, data := [], stage, sink })).turn
  | ⟨.stepping [] record data, stage, sink⟩ =>
    (engine.conclude (.continued { record, data, stage, sink })).turn
  | ⟨.stepping (step :: rest) record data, stage, sink⟩ =>
    afterInvoke step rest record data sink (engine.invoke record data step stage)
  | ⟨.filing step result rest record data, stage, sink⟩ =>
    let progress := engine.recordStep step result { record, data, stage, sink }
    { phase := .stepping rest progress.record progress.data
      stage := progress.stage
      sink := progress.sink }
  | ⟨.aborting fault record data, stage, sink⟩ =>
    (engine.conclude (.faulted fault { record, data, stage, sink })).turn
  | ⟨.ended ending, stage, sink⟩ => { phase := .ended ending, stage, sink }

/-! ### A run alone -/

section Alone

variable {engine : Engine σ τ}

/-- Acting alone, a run comes to this end. -/
def Settles (engine : Engine σ τ) (turn : Turn σ τ) (run : Run σ τ) : Prop :=
  ∃ actions, engine.act^[actions] turn = run.turn

theorem Settles.of_act {turn : Turn σ τ} {run : Run σ τ} (h : engine.Settles (engine.act turn) run) :
    engine.Settles turn run := by
  obtain ⟨actions, hactions⟩ := h
  exact ⟨actions + 1, hactions⟩

theorem settles_stepping (steps : List Step) (record : Record) (data : Data) (stage : Stage σ)
    (sink : τ) :
    engine.Settles ⟨.stepping steps record data, stage, sink⟩
      (engine.conclude (engine.takeSteps steps { record, data, stage, sink })) := by
  induction steps generalizing record data stage sink with
  | nil => exact ⟨1, rfl⟩
  | cons step rest ih =>
    apply Settles.of_act
    simp only [act, takeSteps, takeStep]
    rcases engine.invoke record data step stage with ⟨(fault | result) | failure | _, after⟩
    -- A fault has yet to be recorded, and a result as well; any other reply is the end.
    · exact ⟨1, rfl⟩
    · simp only [afterInvoke]
      cases record.addResult step.id result with
      | error error => exact ⟨0, rfl⟩
      | ok filed => exact .of_act (ih _ _ _ _)
    · exact ⟨0, rfl⟩
    · exact ⟨0, rfl⟩

/-- Acting alone comes to what the engine makes of the submission. -/
theorem settles_run (engine : Engine σ τ) (id : String) (submission : Submission) (stage : Stage σ)
    (sink : τ) :
    engine.Settles ⟨.submitted id submission, stage, sink⟩
      (engine.run id submission stage sink) := by
  apply Settles.of_act
  simp only [act, run]
  cases submission.accept with
  | error error => exact ⟨0, rfl⟩
  | ok request =>
    simp only [execute, greeted]
    rcases engine.load request.workflowId _ with ⟨(failure | definition) | failure | _, after⟩
    · exact ⟨1, rfl⟩
    · simp only [afterLoad, runSteps]
      cases Schedule.order definition.steps engine.byDependency with
      | error error => exact ⟨0, rfl⟩
      | ok steps => exact settles_stepping steps _ _ _ _
    · exact ⟨0, rfl⟩
    · exact ⟨0, rfl⟩

theorem iterate_act_of_ended {turn : Turn σ τ} {ending : Ending} (h : turn.phase = .ended ending)
    (actions : ℕ) : engine.act^[actions] turn = turn := by
  obtain ⟨phase, stage, sink⟩ := turn
  obtain rfl : phase = .ended ending := h
  exact Function.iterate_fixed rfl actions

/-- However many actions it has taken a run to end, it has come to the one end it comes to. -/
theorem Settles.ending_eq {turn : Turn σ τ} {run : Run σ τ} (h : engine.Settles turn run)
    {actions : ℕ} {ending : Ending} (hended : (engine.act^[actions] turn).phase = .ended ending) :
    run.ending = ending := by
  obtain ⟨enough, henough⟩ := h
  -- Both counts of actions lead to a turn that no further action changes.
  have hsame : run.turn = engine.act^[actions] turn := by
    calc run.turn = engine.act^[actions] run.turn := (iterate_act_of_ended rfl actions).symm
      _ = engine.act^[enough] (engine.act^[actions] turn) := by
        rw [← henough, ← Function.iterate_add_apply, ← Function.iterate_add_apply, Nat.add_comm]
      _ = engine.act^[actions] turn := iterate_act_of_ended hended enough
  rw [← hsame] at hended
  exact Phase.ended.inj hended

end Alone

end Engine

/-! ### What an action goes by -/

/-- The phase without the id of the run and without times. -/
def Phase.plain : Phase → Phase
  | .submitted _ submission => .submitted "" submission
  | .unloadable failure record => .unloadable failure record.plain
  | .stepping steps record data => .stepping steps record.plain data
  | .filing step result rest record data => .filing step result.plain rest record.plain data
  | .aborting fault record data => .aborting fault record.plain data
  | .ended ending => .ended ending.plain

theorem Phase.exists_of_plain_eq_ended {phase : Phase} {ending : Ending}
    (h : phase.plain = .ended ending) : ∃ found, phase = .ended found ∧ found.plain = ending := by
  cases phase with
  | ended found => exact ⟨found, rfl, Phase.ended.inj h⟩
  | submitted | unloadable | stepping | filing | aborting => cases h

/-- On given data, the executor comes to the same whenever it runs a step, times aside. -/
def Executor.Functional (executor : Executor σ) : Prop :=
  ∀ clock deadlines step data s t,
    (executor.run clock deadlines step data s).1.map Returned.plain
      = (executor.run clock deadlines step data t).1.map Returned.plain

/-- The executors are standard ones with services that have no memory. A type may be without one. -/
def Registry.Memoryless (registry : Registry σ) : Prop :=
  registry.All fun executor => ∃ collaborators type,
    collaborators.Functional ∧ executor = .standard collaborators type

theorem Registry.memoryless_standard {collaborators : Collaborators σ}
    (h : collaborators.Functional) (deadlines : Deadlines) :
    (standard collaborators deadlines).Memoryless :=
  all_standard (fun type => ⟨collaborators, type, h, rfl⟩) deadlines

theorem Registry.Memoryless.functional {registry : Registry σ} (h : registry.Memoryless) :
    registry.All Executor.Functional := by
  intro executor hexecutor clock deadlines step data s t
  obtain ⟨collaborators, type, hfunctional, rfl⟩ := h executor hexecutor
  exact (Executor.run_standard_of_functional hfunctional type clock deadlines step data s t).1

namespace Engine

variable {engine : Engine σ τ}

theorem reply_load_of_functional (hlookup : Service.Functional engine.lookup) (workflowId : String)
    (s t : Stage σ) : (engine.load workflowId s).1 = (engine.load workflowId t).1 := by
  have hconsult : ∀ stage, Interaction.consult engine.lookup workflowId stage
      = ((engine.lookup workflowId stage.world).1, engine.lookedUp workflowId stage) := fun _ => rfl
  unfold load
  rw [hconsult s, hconsult t, hlookup workflowId s.world t.world]
  cases (engine.lookup workflowId t.world).1 with
  | answered found =>
    cases found with
    | none => rfl
    | some definition =>
      dsimp only
      cases checkDependencies definition.steps <;> rfl
  | raised | hung => rfl

theorem reply_invoke_of_functional (hfunctional : engine.registry.All Executor.Functional)
    (record other : Record) (data : Data) (step : Step) (s t : Stage σ) :
    (engine.invoke record data step s).1.map (Except.map StepResult.plain)
      = (engine.invoke other data step t).1.map (Except.map StepResult.plain) := by
  cases hfound : engine.registry.find? step.type with
  | none => rw [invoke_of_missing hfound, invoke_of_missing hfound]
  | some executor =>
    have hexecutor : executor.Functional := hfunctional.of_find? hfound
    rw [invoke_eq_judged hfound, invoke_eq_judged hfound]
    exact map_judged step (hexecutor _ _ _ _ _ _)

theorem plain_afterLoad (request : RunRequest) (record : Record) (sink state : τ)
    (reply : Reply (Except LoadFailure Definition) × Stage σ) (stage : Stage σ) :
    (engine.afterLoad request record sink reply).phase.plain
      = (engine.afterLoad request record.plain state (reply.1, stage)).phase := by
  rcases reply with ⟨(failure | definition) | failure | _, after⟩
  · rfl
  · simp only [afterLoad]
    cases Schedule.order definition.steps engine.byDependency <;> rfl
  · rfl
  · rfl

theorem plain_afterInvoke (step : Step) (rest : List Step) (record : Record) (data : Data)
    (sink state : τ) (reply : Reply (Except EngineFault StepResult) × Stage σ) (stage : Stage σ) :
    (afterInvoke step rest record data sink reply).phase.plain
      = (afterInvoke step rest record.plain data state
          (reply.1.map (Except.map StepResult.plain), stage)).phase := by
  rcases reply with ⟨(fault | result) | failure | _, after⟩
  · rfl
  · have hfiled := Record.plain_addResult record step.id result
    have hwritten : applyOutput step result.plain data = applyOutput step result data :=
      applyOutput_eq_of_plain step data rfl
    simp only [afterInvoke, Reply.map, Except.map, ← hfiled]
    cases record.addResult step.id result with
    | error error => rfl
    | ok filed => simp only [Phase.plain, hwritten]
  · rfl
  · rfl

section Action

variable (hfunctional : engine.registry.All Executor.Functional)
  (hlookup : Service.Functional engine.lookup)
include hfunctional hlookup

/-- An action goes by the phase of its run alone, and by no id or time in that. -/
theorem plain_act (phase : Phase) (s t : Stage σ) (sink state : τ) :
    (engine.act ⟨phase, s, sink⟩).phase.plain
      = (engine.act ⟨phase.plain, t, state⟩).phase.plain := by
  -- Only a lookup and an executor ask anything of the stage; all else is in the phase.
  cases phase with
  | submitted id submission =>
    change (engine.act ⟨.submitted id submission, s, sink⟩).phase.plain
      = (engine.act ⟨.submitted "" submission, t, state⟩).phase.plain
    simp only [act]
    cases submission.accept with
    | error error => rfl
    | ok request =>
      have hreply := reply_load_of_functional hlookup request.workflowId (greeted request s)
        (greeted request t)
      dsimp only
      rw [plain_afterLoad request _ sink sink _ s, plain_afterLoad request _ state sink _ s, hreply]
      rfl
  | unloadable failure record =>
    simp only [act, Phase.plain, Run.turn, finished, Ending.plain, record_finish, data_finish,
      Record.plain_finish, Record.plain_plain]
  | stepping steps record data =>
    cases steps with
    | nil =>
      simp only [act, Phase.plain, Run.turn, ending_conclude_continued, Ending.plain,
        Record.plain_finish, Record.plain_plain]
    | cons step rest =>
      have hreply := reply_invoke_of_functional hfunctional record record.plain data step s t
      change (afterInvoke step rest record data sink (engine.invoke record data step s)).phase.plain
        = (afterInvoke step rest record.plain data state
            (engine.invoke record.plain data step t)).phase.plain
      rw [plain_afterInvoke step rest record data sink sink _ s,
        plain_afterInvoke step rest record.plain data state sink _ s, hreply, Record.plain_plain]
  | filing step result rest record data =>
    simp only [act, Phase.plain, record_recordStep, data_recordStep, Record.plain_plain]
  | aborting fault record data =>
    simp only [act, Phase.plain, Run.turn, ending_conclude_faulted, Ending.plain,
      Record.plain_finish, Record.plain_plain]
  | ended ending => simp only [act, Phase.plain, Ending.plain_plain]

end Action

end Engine

/-! ### What an action writes -/

/-- The sink keeps the entry of each run that it is given, and the entries of steps are not among
those. -/
structure Sink.Keeps (sink : Sink τ) (runs : τ → Multiset RunEntry) : Prop where
  append : ∀ entry state, runs (sink.append entry state).2 = runs state + {entry}
  appendStep : ∀ entry state, runs (sink.appendStep entry state).2 = runs state

theorem ExecutionLog.keeps_sink : sink.Keeps fun log => (log.runs : Multiset RunEntry) where
  append _ _ := rfl
  appendStep _ _ := rfl

/-- The entry of a run with a final record, and none of any other. -/
def Ending.entries : Ending → Multiset RunEntry
  | .finished record data => {{ record, data }}
  | _ => 0

def Phase.entries : Phase → Multiset RunEntry
  | .ended ending => ending.entries
  | _ => 0

namespace Engine

theorem afterLoad_records_nothing (engine : Engine σ τ) (request : RunRequest) (record : Record)
    (sink : τ) (reply : Reply (Except LoadFailure Definition) × Stage σ) :
    (engine.afterLoad request record sink reply).sink = sink ∧
      (engine.afterLoad request record sink reply).phase.entries = 0 := by
  rcases reply with ⟨(failure | definition) | failure | _, after⟩
  · exact ⟨rfl, rfl⟩
  · simp only [afterLoad]
    cases Schedule.order definition.steps engine.byDependency <;> exact ⟨rfl, rfl⟩
  · exact ⟨rfl, rfl⟩
  · exact ⟨rfl, rfl⟩

theorem afterInvoke_records_nothing (step : Step) (rest : List Step) (record : Record) (data : Data)
    (sink : τ) (reply : Reply (Except EngineFault StepResult) × Stage σ) :
    (afterInvoke step rest record data sink reply).sink = sink ∧
      (afterInvoke step rest record data sink reply).phase.entries = 0 := by
  rcases reply with ⟨(fault | result) | failure | _, after⟩
  · exact ⟨rfl, rfl⟩
  · simp only [afterInvoke]
    cases record.addResult step.id result <;> exact ⟨rfl, rfl⟩
  · exact ⟨rfl, rfl⟩
  · exact ⟨rfl, rfl⟩

end Engine

section Keeps

variable {target : Sink τ} {runs : τ → Multiset RunEntry} (hkeeps : target.Keeps runs)
include hkeeps

namespace Recorder

variable {recorder : Recorder τ} (hsink : recorder.sink = some target)
include hsink

theorem runs_record (entry : RunEntry) (state : τ) :
    runs (recorder.record entry state).2 = runs state + {entry} := by
  have hkept := hkeeps.append entry state
  simp only [record, hsink]
  rcases hreply : target.append entry state with ⟨_ | failure, after⟩ <;>
    rw [hreply] at hkept <;> exact hkept

theorem runs_recordStep (entry : StepEntry) (state : τ) :
    runs (recorder.recordStep entry state).2 = runs state := by
  have hkept := hkeeps.appendStep entry state
  simp only [recordStep, stepSink?, hsink]
  cases recorder.stepsWanted with
  | false => rfl
  | true =>
    simp only [if_true]
    rcases hreply : target.appendStep entry state with ⟨_ | failure, after⟩ <;>
      rw [hreply] at hkept <;> exact hkept

end Recorder

namespace Engine

variable {engine : Engine σ τ} (hsink : engine.recorder.sink = some target)
include hsink

theorem runs_finished_finish (status : Status) (error : Option String) (errorStatus : Option Int)
    (progress : Progress σ τ) :
    runs (finished (engine.finish status error errorStatus progress)).sink
      = runs progress.sink
        + (finished (engine.finish status error errorStatus progress)).ending.entries := by
  simp only [finished, Ending.entries, record_finish, data_finish]
  rw [finish, Progress.sink_afterRecording]
  exact Recorder.runs_record hkeeps hsink _ _

/-- An action adds to the sink what it adds to the entries of its run. -/
theorem tally_act (turn : Turn σ τ) :
    ∃ added, runs (engine.act turn).sink = runs turn.sink + added ∧
      (engine.act turn).phase.entries = turn.phase.entries + added := by
  obtain ⟨phase, stage, sink⟩ := turn
  cases phase with
  | submitted id submission =>
    refine ⟨0, ?_⟩
    simp only [act, add_zero]
    cases submission.accept with
    | error error => exact ⟨rfl, rfl⟩
    | ok request =>
      obtain ⟨hkept, hnone⟩ := engine.afterLoad_records_nothing request _ sink _
      exact ⟨congrArg runs hkept, hnone⟩
  | unloadable failure record =>
    exact ⟨_, runs_finished_finish hkeeps hsink _ _ _ _, (zero_add _).symm⟩
  | stepping steps record data =>
    cases steps with
    | nil =>
      refine ⟨_, ?_, (zero_add _).symm⟩
      simp only [act, conclude]
      split <;> exact runs_finished_finish hkeeps hsink _ _ _ _
    | cons step rest =>
      refine ⟨0, ?_⟩
      simp only [act, add_zero]
      obtain ⟨hkept, hnone⟩ := afterInvoke_records_nothing step rest record data sink
        (engine.invoke record data step stage)
      exact ⟨congrArg runs hkept, hnone⟩
  | filing step result rest record data =>
    refine ⟨0, ?_, rfl⟩
    simp only [act, recordStep, Progress.sink_afterRecording, add_zero]
    exact Recorder.runs_recordStep hkeeps hsink _ _
  | aborting fault record data =>
    exact ⟨_, runs_finished_finish hkeeps hsink _ _ _ _, (zero_add _).symm⟩
  | ended ending => exact ⟨0, (add_zero _).symm, (add_zero _).symm⟩

end Engine

end Keeps

end Runbook
