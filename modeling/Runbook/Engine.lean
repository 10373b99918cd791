import Runbook.Recorder
import Runbook.Registry
import Runbook.Schedule

/-!
The engine takes a request, loads the workflow and runs its steps one after another against the
runtime data. A failed step does not end a run; only a fault of the engine or a workflow that cannot
be loaded does. The record is written to the log once, when it is final.
-/

namespace Runbook

/-- What makes the engine give up a run. -/
inductive EngineFault where
  | noExecutor (type : StepType)
  | escaped (step : String) (message : String)
  | foreignResult (step : String) (kind : String)
deriving DecidableEq, Repr

def EngineFault.message : EngineFault → String
  | .noExecutor type => s!"No executor registered for step type: {type.name}"
  | .escaped step message => s!"Step '{step}' raised unexpectedly: {message}"
  | .foreignResult step kind => s!"Step '{step}' returned {kind} instead of a StepResult"

/-- The response status of a fault. -/
def EngineFault.status : Int := 500

structure Engine (σ τ : Type) where
  clock : σ → Instant
  /-- The definition of a workflow, if it is known. -/
  lookup : Service σ String (Option Definition)
  registry : Registry σ
  recorder : Recorder τ
  byDependency : Bool

/-- A run under way. -/
structure Progress (σ τ : Type) where
  record : Record
  data : Data
  stage : Stage σ
  sink : τ

/-- What a run has come to after some of its steps. -/
inductive Course (σ τ : Type) where
  | continued (progress : Progress σ τ)
  | faulted (fault : EngineFault) (progress : Progress σ τ)
  /-- A failure that nothing catches. -/
  | escaped (failure : Failure) (progress : Progress σ τ)
  /-- A call that never comes back. -/
  | stalled (progress : Progress σ τ)

/-- How a run ends. -/
inductive Ending where
  | refused (error : RequestError)
  | finished (record : Record) (data : Data)
  | escaped (failure : Failure)
  | stalled

structure Run (σ τ : Type) where
  ending : Ending
  stage : Stage σ
  sink : τ

/-- Why a workflow cannot be run, with the words and the response status for it. -/
inductive LoadFailure where
  /-- It is unknown or not valid. -/
  | unusable (failure : Failure) (status : Int)
  | lookupFailed (failure : Failure)
deriving Repr

namespace LoadFailure

def ofFailure : Failure → LoadFailure
  | .notFound message => .unusable (.notFound message) 404
  | .invalidDefinition message => .unusable (.invalidDefinition message) 422
  | failure => .lookupFailed failure

def message : LoadFailure → String
  | .unusable failure _ => failure.message
  | .lookupFailed failure => "Workflow lookup failed: " ++ failure.message

def status : LoadFailure → Int
  | .unusable _ status => status
  | .lookupFailed _ => 500

def logEntry : LoadFailure → LogEntry
  | .unusable failure _ =>
    .event .warning "Workflow could not be loaded" [("error", .string failure.message)]
  | .lookupFailed failure =>
    .event .error "Workflow store lookup failed" [("error", .string failure.message)]

end LoadFailure

namespace Progress

variable {σ τ : Type}

def note (progress : Progress σ τ) (level : Level) (title : String) (fields : Value.Fields) :
    Progress σ τ :=
  { progress with stage := progress.stage.note level title fields }

/-- Adds what the recorder has to say, if anything. -/
def afterRecording (progress : Progress σ τ) : Option LogEntry × τ → Progress σ τ
  | (none, sink) => { progress with sink }
  | (some entry, sink) =>
    { progress with sink, stage := { progress.stage with log := progress.stage.log ++ [entry] } }

end Progress

namespace Engine

variable {σ τ : Type}

/-! ### One step -/

/-- The dependencies of a step that have no result yet. -/
def pending (record : Record) (step : Step) : List String :=
  step.dependencies.filter fun id => !Entries.has record.results id

/-- Warns of a step that comes before some of its dependencies. -/
def warnPending (stage : Stage σ) (record : Record) (step : Step) : Stage σ :=
  let pending := pending record step
  if pending.isEmpty then stage
  else stage.note .warning "Step dependencies have not produced results yet" [
    ("step_id", .string step.id), ("pending", .strings pending)]

/-- Runs a step through its executor: a result, or the fault that ends the run. -/
def invoke (engine : Engine σ τ) (record : Record) (data : Data) (step : Step) (stage : Stage σ) :
    Reply (Except EngineFault StepResult) × Stage σ :=
  match engine.registry.find? step.type with
  | none => (.answered (.error (.noExecutor step.type)), stage)
  | some executor =>
    match executor.run engine.clock engine.registry.deadlines step data
      (warnPending stage record step) with
    | (.answered (.result result), stage) => (.answered (.ok result), stage)
    | (.answered (.foreign kind), stage) =>
      (.answered (.error (.foreignResult step.id kind)), stage)
    | (.raised failure, stage) => (.answered (.error (.escaped step.id failure.message)), stage)
    | (.hung, stage) => (.hung, stage)

/-- The runtime data after a step: a transformation that asks for it replaces its input. -/
def applyOutput (step : Step) (result : StepResult) (data : Data) : Data :=
  match step.config, result.outcome with
  | .dataTransformation config, .success d =>
    if config.replaceData then Entries.put data config.target d else data
  | _, _ => data

def recordStep (engine : Engine σ τ) (step : Step) (result : StepResult)
    (progress : Progress σ τ) : Progress σ τ :=
  progress.afterRecording (engine.recorder.recordStep
    { executionId := progress.record.executionId
      workflowId := progress.record.workflowId
      step := step.id
      result
      data := progress.data } progress.sink)

/-- Runs one step, files its result, updates the runtime data and records the step. -/
def takeStep (engine : Engine σ τ) (step : Step) (progress : Progress σ τ) : Course σ τ :=
  match engine.invoke progress.record progress.data step progress.stage with
  | (.answered (.ok result), stage) =>
    match progress.record.addResult step.id result with
    | .ok record => .continued <| engine.recordStep step result
      { progress with record, stage, data := applyOutput step result progress.data }
    | .error error => .escaped error.toFailure { progress with stage }
  | (.answered (.error fault), stage) => .faulted fault { progress with stage }
  | (.raised failure, stage) => .escaped failure { progress with stage }
  | (.hung, stage) => .stalled { progress with stage }

/-- Runs steps in order until one of them ends the run. -/
def takeSteps (engine : Engine σ τ) : List Step → Progress σ τ → Course σ τ
  | [], progress => .continued progress
  | step :: rest, progress => match engine.takeStep step progress with
    | .continued progress => takeSteps engine rest progress
    | course => course

/-! ### A whole run -/

/-- Makes the record final, logs the end and records the run. -/
def finish (engine : Engine σ τ) (status : Status) (error : Option String)
    (errorStatus : Option Int) (progress : Progress σ τ) : Progress σ τ :=
  let record := progress.record.finish status error errorStatus (engine.clock progress.stage.world)
  let progress := { progress with record }.note .info "Workflow run finished" [
    ("status", .string status.name), ("steps_completed", .int record.stepsCompleted),
    ("total_steps", .int record.totalSteps), ("duration_ms", .int record.executionTimeMs)]
  progress.afterRecording (engine.recorder.record { record, data := progress.data } progress.sink)

/-- A run whose record is final. -/
def finished (progress : Progress σ τ) : Run σ τ :=
  { ending := .finished progress.record progress.data
    stage := progress.stage
    sink := progress.sink }

/-- Ends a run as its steps have left it. -/
def conclude (engine : Engine σ τ) : Course σ τ → Run σ τ
  | .continued progress =>
    let failed := progress.record.results.filter fun entry => !entry.2.outcome.isSuccess
    let progress := if failed.isEmpty then progress
      else progress.note .warning "Workflow completed with failed steps"
        [("failed_steps", .strings (Entries.keys failed))]
    finished (engine.finish .completed none none progress)
  | .faulted fault progress =>
    let progress := progress.note .error "Workflow run aborted" [
      ("error", .string fault.message), ("steps_completed", .int progress.record.stepsCompleted),
      ("total_steps", .int progress.record.totalSteps)]
    finished (engine.finish .failed (some fault.message) (some EngineFault.status) progress)
  | .escaped failure progress =>
    { ending := .escaped failure, stage := progress.stage, sink := progress.sink }
  | .stalled progress => { ending := .stalled, stage := progress.stage, sink := progress.sink }

/-- The definition of a workflow, its dependencies checked. -/
def load (engine : Engine σ τ) (workflowId : String) (stage : Stage σ) :
    Reply (Except LoadFailure Definition) × Stage σ :=
  match Interaction.consult engine.lookup workflowId stage with
  | (.answered none, stage) =>
    (.answered (.error (.ofFailure (.notFound "Workflow not found"))), stage)
  | (.answered (some definition), stage) =>
    match checkDependencies definition.steps with
    | .ok _ => (.answered (.ok definition), stage)
    | .error error => (.answered (.error (.ofFailure error.toFailure)), stage)
  | (.raised failure, stage) => (.answered (.error (.ofFailure failure)), stage)
  | (.hung, stage) => (.hung, stage)

/-- Runs the steps of a definition on the payload of a request. -/
def runSteps (engine : Engine σ τ) (request : RunRequest) (definition : Definition)
    (progress : Progress σ τ) : Run σ τ :=
  match Schedule.order definition.steps engine.byDependency with
  | .error error =>
    { ending := .escaped error.toFailure, stage := progress.stage, sink := progress.sink }
  | .ok steps => engine.conclude <| engine.takeSteps steps
    { progress with
      data := request.initialData
      record := { progress.record with totalSteps := steps.length, status := .running } }

/-- The run of an accepted request, under the given id. -/
def execute (engine : Engine σ τ) (id : String) (request : RunRequest) (stage : Stage σ)
    (sink : τ) : Run σ τ :=
  let record := Record.begin id request.workflowId request.userId request.trigger request.metadata
    (engine.clock stage.world)
  let stage := stage.note .info "Workflow run starting" [("trigger", .string request.trigger.name)]
  match engine.load request.workflowId stage with
  | (.answered (.ok definition), stage) =>
    engine.runSteps request definition { record, data := [], stage, sink }
  | (.answered (.error failure), stage) =>
    finished <| engine.finish .failed (some failure.message) (some failure.status)
      { record, data := [], sink
        stage := { stage with log := stage.log ++ [failure.logEntry] } }
  | (.raised failure, stage) => { ending := .escaped failure, stage, sink }
  | (.hung, stage) => { ending := .stalled, stage, sink }

/-- Runs a submission. One that is refused touches nothing. -/
def run (engine : Engine σ τ) (id : String) (submission : Submission) (stage : Stage σ)
    (sink : τ) : Run σ τ :=
  match submission.accept with
  | .error error => { ending := .refused error, stage, sink }
  | .ok request => engine.execute id request stage sink

end Engine

end Runbook
