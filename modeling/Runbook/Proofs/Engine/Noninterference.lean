import Runbook.Proofs.Engine.Recording
import Runbook.Proofs.Executor.Agreement

/-!
# Recording leaves the run alone

Whether a run is recorded, and whether its sink takes what it is given, shows in the log and in the state
of the sink and nowhere else. Of two runs on the same stage that are recorded differently, each step
leaves the same: the same record but for ids and times, the same data, the same calls, the same world.
-/

namespace Runbook

variable {σ τ υ : Type}

/-! ### Logs, ids and times aside -/

def Stage.unlogged (stage : Stage σ) : Stage σ :=
  { stage with log := [] }

@[simp] theorem Stage.unlogged_note (stage : Stage σ) (level : Level) (title : String)
    (fields : Value.Fields) : (stage.note level title fields).unlogged = stage.unlogged := rfl

/-- A record without its id and without times. -/
def Record.plain (record : Record) : Record :=
  { record with
    executionId := ""
    results := Entries.mapValues StepResult.plain record.results
    executionTimeMs := 0
    startedAt := { micros := 0 }
    completedAt := record.completedAt.map fun _ => { micros := 0 } }

/-- What a run has come to, but for the log and the sink. -/
def Progress.plain (progress : Progress σ τ) : Progress σ Unit where
  record := progress.record.plain
  data := progress.data
  stage := progress.stage.unlogged
  sink := ()

def Course.plain : Course σ τ → Course σ Unit
  | .continued progress => .continued progress.plain
  | .faulted fault progress => .faulted fault progress.plain
  | .escaped failure progress => .escaped failure progress.plain
  | .stalled progress => .stalled progress.plain

def Ending.plain : Ending → Ending
  | .refused error => .refused error
  | .finished record data => .finished record.plain data
  | .escaped failure => .escaped failure
  | .stalled => .stalled

def Run.plain (run : Run σ τ) : Run σ Unit where
  ending := run.ending.plain
  stage := run.stage.unlogged
  sink := ()

theorem Record.plain_addResult (record : Record) (step : String) (result : StepResult) :
    (record.addResult step result).map plain = record.plain.addResult step result.plain := by
  have hhas : Entries.has record.plain.results step = Entries.has record.results step :=
    Entries.has_mapValues _ _ _
  have hput : Entries.put record.plain.results step result.plain
      = Entries.mapValues StepResult.plain (Entries.put record.results step result) :=
    (Entries.mapValues_put _ _ _ _).symm
  unfold addResult
  rw [hhas, hput]
  split
  · rfl
  · split
    · next hfull => exact (if_pos hfull).symm
    · next hfull => exact (if_neg hfull).symm

@[simp] theorem Record.plain_plain (record : Record) : record.plain.plain = record.plain := by
  simp [plain, Entries.mapValues, StepResult.plain, Function.comp_def]

theorem Record.plain_finish (record : Record) (status : Status) (error : Option String)
    (errorStatus : Option Int) (now : Instant) :
    (record.finish status error errorStatus now).plain
      = { record.plain with
          status, error, errorStatus, completedAt := some { micros := 0 } } := rfl

@[simp] theorem Ending.plain_plain (ending : Ending) : ending.plain.plain = ending.plain := by
  cases ending <;> simp [plain]

theorem Ending.exists_of_plain_eq_finished {ending : Ending} {record : Record} {data : Data}
    (h : ending.plain = .finished record data) :
    ∃ found kept, ending = .finished found kept := by
  cases ending with
  | finished found kept => exact ⟨found, kept, rfl⟩
  | refused | escaped | stalled => cases h

@[simp] theorem Progress.plain_afterRecording (progress : Progress σ τ)
    (answer : Option LogEntry × τ) : (progress.afterRecording answer).plain = progress.plain := by
  rcases answer with ⟨_ | entry, sink⟩ <;> rfl

/-! ### Executors -/

namespace Executor

/-- Nothing that an executor does depends on what has been logged: the log is a trace, not an input. -/
def IgnoresLog (executor : Executor σ) : Prop :=
  executor.Agrees fun s t => s.unlogged = t.unlogged

theorem agree_consult_unlogged {α β : Type} (service : Service σ α β) (a : α) :
    Interaction.Agree (fun s t : Stage σ => s.unlogged = t.unlogged)
      (Interaction.consult service a) (Interaction.consult service a) := by
  rintro ⟨world, calls, log⟩ ⟨_, _, other⟩ h
  obtain ⟨rfl, rfl⟩ : world = _ ∧ calls = _ := by simpa [Stage.unlogged] using h
  exact ⟨rfl, rfl⟩

theorem agree_perform_unlogged {α β : Type} (call : Call) (service : Service σ α β) (a : α) :
    Interaction.Agree (fun s t : Stage σ => s.unlogged = t.unlogged)
      (Interaction.perform call service a) (Interaction.perform call service a) := by
  intro s t h
  refine agree_consult_unlogged service a _ _ ?_
  exact congrArg (fun stage : Stage σ => { stage with calls := stage.calls ++ [call] }) h

theorem ignoresLog_standard (collaborators : Collaborators σ) (type : StepType) :
    (standard collaborators type).IgnoresLog :=
  agrees_standard {
    template := fun service _ => agree_consult_unlogged service
    completion := fun service _ call => agree_perform_unlogged (.completion call) service call
    notifier := fun service _ message =>
      agree_perform_unlogged (.notification message) service message
    http := fun service _ call => agree_perform_unlogged (.http call) service call } type

theorem admitsCourse_unlogged (clock other : σ → Instant) :
    AdmitsCourse (fun s t : Stage σ => s.unlogged = t.unlogged) clock other := by
  intro before begun s t level title fields _ _ h
  simpa using h

end Executor

namespace Engine

/-! ### Two runs -/

/-- The engine with another recorder and another clock. -/
def recordedBy (engine : Engine σ τ) (recorder : Recorder υ) (clock : σ → Instant) :
    Engine σ υ where
  clock := clock
  lookup := engine.lookup
  registry := engine.registry
  recorder := recorder
  byDependency := engine.byDependency

@[simp] theorem unlogged_warnPending (stage : Stage σ) (record : Record) (step : Step) :
    (warnPending stage record step).unlogged = stage.unlogged := by
  unfold warnPending
  dsimp only
  split <;> rfl

@[simp] theorem plain_recordStep (engine : Engine σ τ) (step : Step) (result : StepResult)
    (progress : Progress σ τ) : (engine.recordStep step result progress).plain = progress.plain :=
  progress.plain_afterRecording _

theorem map_judged (step : Step) {x y : Reply Returned × Stage σ}
    (h : x.1.map Returned.plain = y.1.map Returned.plain) :
    (judged step x).1.map (Except.map StepResult.plain)
      = (judged step y).1.map (Except.map StepResult.plain) := by
  rcases x with ⟨(result | kind) | failure | _, after⟩ <;>
    rcases y with ⟨(found | other) | cause | _, later⟩ <;>
    simp_all [Reply.map, Returned.plain, judged, Except.map]

theorem applyOutput_eq_of_plain (step : Step) (data : Data) {result found : StepResult}
    (h : found.plain = result.plain) :
    applyOutput step found data = applyOutput step result data := by
  have houtcome : found.plain.outcome = result.plain.outcome := congrArg StepResult.outcome h
  change found.outcome = result.outcome at houtcome
  unfold applyOutput
  rw [houtcome]

variable {engine : Engine σ τ} (recorder : Recorder υ) (clock : σ → Instant)

section Step

variable (hignores : engine.registry.All Executor.IgnoresLog)
include hignores

/-- Executors come to the same, whatever the records are: what they are warned of is only logged. -/
theorem invoke_recordedBy (record other : Record) (data : Data) (step : Step) {s t : Stage σ}
    (hst : s.unlogged = t.unlogged) :
    (engine.invoke record data step s).1.map (Except.map StepResult.plain)
        = ((engine.recordedBy recorder clock).invoke other data step t).1.map
            (Except.map StepResult.plain) ∧
      (engine.invoke record data step s).2.unlogged
        = ((engine.recordedBy recorder clock).invoke other data step t).2.unlogged := by
  cases hfound : engine.registry.find? step.type with
  | none =>
    have hmissing : (engine.recordedBy recorder clock).registry.find? step.type = none := hfound
    rw [invoke_of_missing hfound, invoke_of_missing hmissing]
    exact ⟨rfl, hst⟩
  | some executor =>
    have hfound' : (engine.recordedBy recorder clock).registry.find? step.type = some executor :=
      hfound
    have hwarned : (warnPending s record step).unlogged = (warnPending t other step).unlogged := by
      simpa using hst
    have hexecutor : executor.IgnoresLog := hignores.of_find? hfound
    obtain ⟨hreply, hafter⟩ := Executor.Agrees.run
      (Executor.admitsCourse_unlogged engine.clock clock) step hexecutor engine.registry.deadlines
      data hwarned
    rw [invoke_eq_judged hfound, invoke_eq_judged hfound', stage_judged, stage_judged]
    exact ⟨map_judged step hreply, hafter⟩

theorem plain_takeStep (step : Step) {progress : Progress σ τ} {twin : Progress σ υ}
    (h : progress.plain = twin.plain) :
    (engine.takeStep step progress).plain
      = ((engine.recordedBy recorder clock).takeStep step twin).plain := by
  have hrecord : progress.record.plain = twin.record.plain := congrArg Progress.record h
  have hdata : progress.data = twin.data := congrArg Progress.data h
  have hstage : progress.stage.unlogged = twin.stage.unlogged := congrArg Progress.stage h
  obtain ⟨hreply, hafter⟩ :=
    invoke_recordedBy recorder clock hignores progress.record twin.record progress.data step hstage
  unfold takeStep
  rw [← hdata]
  rcases hs : engine.invoke progress.record progress.data step progress.stage with
    ⟨(fault | result) | failure | _, after⟩ <;>
  rcases ht : (engine.recordedBy recorder clock).invoke twin.record progress.data step twin.stage with
    ⟨(other | found) | cause | _, later⟩ <;>
  rw [hs, ht] at hreply hafter <;>
  simp only [Reply.map, Except.map, Reply.answered.injEq, Except.ok.injEq, Except.error.injEq,
    Reply.raised.injEq, reduceCtorEq] at hreply
  · subst hreply
    simp [Course.plain, Progress.plain, hrecord, hdata, hafter]
  · -- The two results are filed alike.
    have hfiled : (progress.record.addResult step.id result).map Record.plain
        = (twin.record.addResult step.id found).map Record.plain := by
      rw [Record.plain_addResult, Record.plain_addResult, hrecord, hreply]
    have hwritten : applyOutput step result progress.data = applyOutput step found progress.data :=
      applyOutput_eq_of_plain step progress.data hreply
    rcases hfirst : progress.record.addResult step.id result with error | record <;>
      rcases hsecond : twin.record.addResult step.id found with cause | filed <;>
      rw [hfirst, hsecond] at hfiled <;>
      simp only [Except.map, Except.ok.injEq, Except.error.injEq, reduceCtorEq] at hfiled
    · subst hfiled
      simp [hfirst, hsecond, Course.plain, Progress.plain, hrecord, hdata, hafter]
    · simp only [hfirst, hsecond, Course.plain, plain_recordStep]
      simp [Progress.plain, hfiled, hwritten, hafter]
  · subst hreply
    simp [Course.plain, Progress.plain, hrecord, hdata, hafter]
  · simp [Course.plain, Progress.plain, hrecord, hdata, hafter]

theorem Reaches.exists_twin {steps rest : List Step} {progress last : Progress σ τ}
    (h : engine.Reaches steps progress rest last) {twin : Progress σ υ}
    (htwin : progress.plain = twin.plain) :
    ∃ other, (engine.recordedBy recorder clock).Reaches steps twin rest other ∧
      last.plain = other.plain := by
  induction h generalizing twin with
  | refl => exact ⟨twin, .refl _ _, htwin⟩
  | @step step _ _ progress next _ htaken _ ih =>
    have hplain := plain_takeStep recorder clock hignores step htwin
    rw [htaken] at hplain
    cases hother : (engine.recordedBy recorder clock).takeStep step twin with
    | continued found =>
      rw [hother] at hplain
      obtain ⟨other, hreach, hlast⟩ := ih (Course.continued.inj hplain)
      exact ⟨other, .step hother hreach, hlast⟩
    | faulted | escaped | stalled =>
      rw [hother] at hplain
      cases hplain

theorem plain_takeSteps (steps : List Step) {progress : Progress σ τ} {twin : Progress σ υ}
    (h : progress.plain = twin.plain) :
    (engine.takeSteps steps progress).plain
      = ((engine.recordedBy recorder clock).takeSteps steps twin).plain := by
  induction steps generalizing progress twin with
  | nil => exact congrArg Course.continued h
  | cons step steps ih =>
    have hplain := plain_takeStep recorder clock hignores step h
    unfold takeSteps
    cases htaken : engine.takeStep step progress <;>
      cases hother : (engine.recordedBy recorder clock).takeStep step twin <;>
      rw [htaken, hother] at hplain <;> try cases hplain
    · exact ih (Course.continued.inj hplain)
    · exact hplain
    · exact hplain
    · exact hplain

end Step

/-! ### Whole runs -/

theorem plain_finish (status : Status) (error : Option String) (errorStatus : Option Int)
    (progress : Progress σ τ) :
    (engine.finish status error errorStatus progress).plain
      = { progress.plain with
          record := { progress.plain.record with
            status, error, errorStatus, completedAt := some { micros := 0 } } } := by
  rw [finish, Progress.plain_afterRecording]
  rfl

theorem plain_finished_finish (status : Status) (error : Option String) (errorStatus : Option Int)
    {progress : Progress σ τ} {twin : Progress σ υ} (h : progress.plain = twin.plain) :
    (finished (engine.finish status error errorStatus progress)).plain
      = (finished ((engine.recordedBy recorder clock).finish status error errorStatus twin)).plain := by
  have hplain : (engine.finish status error errorStatus progress).plain
      = ((engine.recordedBy recorder clock).finish status error errorStatus twin).plain := by
    rw [plain_finish, plain_finish, h]
  exact congrArg (fun plain : Progress σ Unit => ({
    ending := .finished plain.record plain.data
    stage := plain.stage
    sink := plain.sink } : Run σ Unit)) hplain

theorem plain_conclude {course : Course σ τ} {twin : Course σ υ} (h : course.plain = twin.plain) :
    (engine.conclude course).plain = ((engine.recordedBy recorder clock).conclude twin).plain := by
  cases course with
  | continued progress =>
    cases twin with
    | continued other =>
      have hplain : progress.plain = other.plain := Course.continued.inj h
      simp only [conclude]
      -- What is said of failed steps is only logged.
      split <;> split <;> exact plain_finished_finish recorder clock _ _ _ hplain
    | faulted | escaped | stalled => cases h
  | faulted fault progress =>
    cases twin with
    | faulted cause other =>
      obtain ⟨rfl, hplain⟩ := Course.faulted.inj h
      exact plain_finished_finish recorder clock _ _ _ hplain
    | continued | escaped | stalled => cases h
  | escaped failure progress =>
    cases twin with
    | escaped cause other =>
      obtain ⟨rfl, hplain⟩ := Course.escaped.inj h
      have hstage : progress.stage.unlogged = other.stage.unlogged := congrArg Progress.stage hplain
      simp only [conclude, Run.plain, hstage]
    | continued | faulted | stalled => cases h
  | stalled progress =>
    cases twin with
    | stalled other =>
      have hstage : progress.stage.unlogged = other.stage.unlogged :=
        congrArg Progress.stage (Course.stalled.inj h)
      simp only [conclude, Run.plain, hstage]
    | continued | faulted | escaped => cases h

section Run

variable (hignores : engine.registry.All Executor.IgnoresLog) (id other : String)
  (request : RunRequest) (stage : Stage σ) (sink : τ) (state : υ)
include hignores

theorem plain_runSteps (definition : Definition) {progress : Progress σ τ} {twin : Progress σ υ}
    (h : progress.plain = twin.plain) :
    (engine.runSteps request definition progress).plain
      = ((engine.recordedBy recorder clock).runSteps request definition twin).plain := by
  have hstage : progress.stage.unlogged = twin.stage.unlogged := congrArg Progress.stage h
  have hsame : (engine.recordedBy recorder clock).byDependency = engine.byDependency := rfl
  unfold runSteps
  rw [hsame]
  cases Schedule.order definition.steps engine.byDependency with
  | error error => simp only [Run.plain, hstage]
  | ok steps =>
    refine plain_conclude recorder clock (plain_takeSteps recorder clock hignores steps ?_)
    exact congrArg (fun plain : Progress σ Unit => ({ plain with
      data := request.initialData
      record := { plain.record with totalSteps := steps.length, status := .running } }
        : Progress σ Unit)) h

theorem plain_execute :
    (engine.execute id request stage sink).plain
      = ((engine.recordedBy recorder clock).execute other request stage state).plain := by
  have hload : (engine.recordedBy recorder clock).load request.workflowId (greeted request stage)
      = engine.load request.workflowId (greeted request stage) := rfl
  simp only [greeted] at hload
  unfold execute
  simp only [hload]
  rcases engine.load request.workflowId _ with ⟨(failure | definition) | failure | _, after⟩
  · exact plain_finished_finish recorder clock _ _ _ rfl
  · exact plain_runSteps recorder clock hignores request definition rfl
  · rfl
  · rfl

theorem exists_twin_of_comesTo {rest : List Step} {point : Progress σ τ}
    (h : engine.ComesTo id request stage sink rest point) :
    ∃ twin, (engine.recordedBy recorder clock).ComesTo other request stage state rest twin ∧
      point.plain = twin.plain := by
  obtain ⟨order, hruns, hreach⟩ := h
  have hopening : (engine.opening id request stage sink order).plain
      = ((engine.recordedBy recorder clock).opening other request stage state order).plain := rfl
  obtain ⟨twin, htwin, hplain⟩ := hreach.exists_twin recorder clock hignores hopening
  exact ⟨twin, ⟨order, hruns, htwin⟩, hplain⟩

/-- **Recording leaves the run alone.** Two engines that differ in the recorder and in the clock run a
submission to the same end: the records are the same but for ids and times, so are the data, the calls
made and the world, and so is everything at each point of the runs. Whether there is a sink, which of
the entries it refuses and whether the results of steps are wanted does not matter. -/
theorem run_independent_of_recorder (submission : Submission) :
    (engine.run id submission stage sink).plain
        = ((engine.recordedBy recorder clock).run other submission stage state).plain ∧
      ∀ request, submission.accept = .ok request → ∀ rest plain,
        (∃ point, engine.ComesTo id request stage sink rest point ∧ point.plain = plain) ↔
          ∃ twin, (engine.recordedBy recorder clock).ComesTo other request stage state rest twin ∧
            twin.plain = plain := by
  constructor
  · unfold run
    cases submission.accept with
    | error error => rfl
    | ok request => exact plain_execute recorder clock hignores id other request stage sink state
  · intro request _ rest plain
    constructor
    · rintro ⟨point, hpoint, rfl⟩
      obtain ⟨twin, htwin, hplain⟩ := exists_twin_of_comesTo recorder clock hignores id other request
        stage sink state hpoint
      exact ⟨twin, htwin, hplain.symm⟩
    · rintro ⟨twin, htwin, rfl⟩
      have hignores' : (engine.recordedBy recorder clock).registry.All Executor.IgnoresLog := hignores
      -- The first engine is the second one with the recorder changed back.
      obtain ⟨point, hpoint, hplain⟩ := exists_twin_of_comesTo engine.recorder engine.clock hignores'
        other id request stage state sink htwin
      exact ⟨point, hpoint, hplain.symm⟩

end Run

end Engine

namespace Sample

/-- A sink that refuses every other entry. -/
def flaky : Sink Nat where
  append _ count := (if count % 2 = 0 then some (.other "OSError" "disk full") else none, count + 1)
  appendStep _ count :=
    (if count % 2 = 0 then some (.other "OSError" "disk full") else none, count + 1)

/-- Records the sample in a sink that refuses some of it. -/
def flakyEngine : Engine Unit Nat :=
  loggingEngine.recordedBy { sink := some flaky, stepsWanted := true } loggingEngine.clock

theorem aborted_checks_independent_of_flaky :
    loggingEngine.registry.All Executor.IgnoresLog ∧
      (loggingEngine.run "run" submission (.start ()) .empty).plain
        = (flakyEngine.run "again" submission (.start ()) 0).plain ∧
      (loggingEngine.run "run" submission (.start ()) .empty).stage.log.length = 3 ∧
      (flakyEngine.run "again" submission (.start ()) 0).stage.log.length = 4 := by
  have hignores : loggingEngine.registry.All Executor.IgnoresLog := by
    refine (Registry.all_standard (Executor.ignoresLog_standard collaborators) _).register ?_
    exact fun step data s t h => ⟨rfl, h⟩
  refine ⟨hignores, ?_, by decide +kernel, by decide +kernel⟩
  exact (Engine.run_independent_of_recorder { sink := some flaky, stepsWanted := true }
    loggingEngine.clock hignores "run" "again" (.start ()) .empty 0 submission).1

end Sample

end Runbook
