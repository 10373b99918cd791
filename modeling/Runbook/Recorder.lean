import Runbook.Interaction
import Runbook.Record

/-!
The recorder writes runs, and if wanted the results of their steps, to a sink. Failures of the sink
are logged and go no further.
-/

namespace Runbook

/-- The entry of a run, with the runtime data that its results may refer to. -/
structure RunEntry where
  record : Record
  data : Data
deriving Repr

structure StepEntry where
  executionId : String
  workflowId : String
  step : String
  result : StepResult
  data : Data
deriving Repr

/-- The fields of a step entry in the execution log. -/
def StepEntry.fields (render : Datum → Value) (entry : StepEntry) : Value.Fields :=
  [("execution_id", .string entry.executionId), ("workflow_id", .string entry.workflowId),
    ("step_id", .string entry.step)] ++ entry.result.fields render

/-- Where entries go: a sink in state `τ` takes an entry or raises a failure. -/
structure Sink (τ : Type) where
  append : RunEntry → τ → Option Failure × τ
  appendStep : StepEntry → τ → Option Failure × τ

structure Recorder (τ : Type) where
  sink : Option (Sink τ)
  /-- Whether the results of steps are wanted. -/
  stepsWanted : Bool

namespace Recorder

variable {τ : Type}

/-- The sink for step results, if they are recorded. -/
def stepSink? (recorder : Recorder τ) : Option (Sink τ) :=
  if recorder.stepsWanted then recorder.sink else none

def recordsSteps (recorder : Recorder τ) : Bool :=
  recorder.stepSink?.isSome

/-- Records a run; what is to be logged comes back with the state of the sink. -/
def record (recorder : Recorder τ) (entry : RunEntry) (state : τ) : Option LogEntry × τ :=
  match recorder.sink with
  | none => (none, state)
  | some sink => match sink.append entry state with
    | (none, state) => (none, state)
    | (some failure, state) =>
      (some (.event .error "Failed to record workflow execution" [
        ("execution_id", .string entry.record.executionId),
        ("workflow_id", .string entry.record.workflowId), ("error", .string failure.message)]),
        state)

def recordStep (recorder : Recorder τ) (entry : StepEntry) (state : τ) : Option LogEntry × τ :=
  match recorder.stepSink? with
  | none => (none, state)
  | some sink => match sink.appendStep entry state with
    | (none, state) => (none, state)
    | (some failure, state) =>
      (some (.event .error "Failed to record step result" [
        ("execution_id", .string entry.executionId), ("step_id", .string entry.step),
        ("error", .string failure.message)]), state)

end Recorder

end Runbook
