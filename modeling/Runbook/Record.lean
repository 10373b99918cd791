import Runbook.Instant
import Runbook.Request

/-!
The record of a run: the results of its steps in the order in which they came, and how it ended.
-/

namespace Runbook

inductive Status where
  | loading
  | running
  | completed
  | failed
deriving DecidableEq, Repr, Inhabited

namespace Status

def all : List Status := [.loading, .running, .completed, .failed]

def name : Status → String
  | .loading => "loading"
  | .running => "running"
  | .completed => "completed"
  | .failed => "failed"

def ofName? (name : String) : Option Status :=
  all.find? fun status => status.name == name

theorem ofName?_name (status : Status) : ofName? status.name = some status := by
  cases status <;> decide

end Status

/-- What a step came to. -/
inductive Outcome where
  | success (result : Datum)
  | failure (error : Option String)
deriving Repr, BEq

namespace Outcome

def isSuccess : Outcome → Bool
  | .success _ => true
  | .failure _ => false

def error? : Outcome → Option String
  | .success _ => none
  | .failure error => error

end Outcome

structure StepResult where
  outcome : Outcome
  executionTimeMs : Int
deriving Repr, BEq

namespace StepResult

def succeeded (v : Value) : StepResult :=
  { outcome := .success (.value v), executionTimeMs := 0 }

def failed (error : Option String) : StepResult :=
  { outcome := .failure error, executionTimeMs := 0 }

/-- The fields of a result; `render` says how data are shown. -/
def fields (render : Datum → Value) (result : StepResult) : Value.Fields :=
  [("success", .bool result.outcome.isSuccess),
    match result.outcome with
    | .success d => ("result", render d)
    | .failure error => ("error", .optionalText error),
    ("executionTimeMs", .int result.executionTimeMs)]

end StepResult

structure Record where
  executionId : String
  workflowId : String
  userId : String
  trigger : Trigger
  status : Status
  results : Entries StepResult
  error : Option String
  /-- The response status that goes with the error. -/
  errorStatus : Option Int
  executionTimeMs : Int
  stepsCompleted : Int
  totalSteps : Int
  startedAt : Instant
  completedAt : Option Instant
  metadata : Value.Fields
deriving Repr

inductive RecordError where
  | alreadyRecorded (step : String)
  | allAccountedFor
  | unknownStatus (status : Value)
deriving Repr

def RecordError.message : RecordError → String
  | .alreadyRecorded step => s!"Result for step '{step}' already recorded"
  | .allAccountedFor => "All steps already accounted for"
  | .unknownStatus status => status.showNested ++ " is not a valid ExecutionStatus"

def RecordError.toFailure (error : RecordError) : Failure :=
  .other "ValueError" error.message

def statusOf (v : Value) : Except RecordError Status :=
  match (match v with | .string s => Status.ofName? s | _ => none) with
  | some status => .ok status
  | none => .error (.unknownStatus v)

namespace Record

/-- The record of a run that begins now. -/
def begin (executionId workflowId userId : String) (trigger : Trigger) (metadata : Value.Fields)
    (now : Instant) : Record where
  executionId := executionId
  workflowId := workflowId
  userId := userId
  trigger := trigger
  status := .loading
  results := []
  error := none
  errorStatus := none
  executionTimeMs := 0
  stepsCompleted := 0
  totalSteps := 0
  startedAt := now
  completedAt := none
  metadata := metadata

def isFinished (record : Record) : Bool :=
  record.status == .completed || record.status == .failed

/-- Adds the result of a step, which then counts as done. -/
def addResult (record : Record) (step : String) (result : StepResult) :
    Except RecordError Record :=
  if Entries.has record.results step then .error (.alreadyRecorded step)
  else if record.totalSteps ≤ record.stepsCompleted then .error .allAccountedFor
  else .ok { record with
    results := Entries.put record.results step result
    stepsCompleted := record.stepsCompleted + 1 }

def finish (record : Record) (status : Status) (error : Option String) (errorStatus : Option Int)
    (now : Instant) : Record :=
  { record with
    status
    error
    errorStatus
    completedAt := some now
    executionTimeMs := record.startedAt.millisecondsUntil now }

def resultsValue (render : Datum → Value) (record : Record) : Value :=
  .object (Entries.mapValues (fun result => .object (result.fields render)) record.results)

/-- The entry of a run in the execution log. -/
def logEntry (render : Datum → Value) (record : Record) : Value.Fields :=
  [("execution_id", .string record.executionId), ("workflow_id", .string record.workflowId),
    ("user_id", .string record.userId), ("trigger", .string record.trigger.name),
    ("status", .string record.status.name), ("results", record.resultsValue render),
    ("error", .optionalText record.error), ("execution_time", .int record.executionTimeMs),
    ("steps_completed", .int record.stepsCompleted), ("total_steps", .int record.totalSteps),
    ("started_at", .string record.startedAt.text),
    ("completed_at", .ofOption (fun t => .string t.text) record.completedAt),
    ("metadata", .object record.metadata)]

/-- What the caller of a run is told. -/
def response (render : Datum → Value) (record : Record) : Value.Fields :=
  [("success", .bool (record.status == .completed)), ("workflowId", .string record.workflowId),
    ("executionId", .string record.executionId), ("status", .string record.status.name),
    ("results", record.resultsValue render),
    ("metadata", .object [("executionTimeMs", .int record.executionTimeMs),
      ("stepsCompleted", .int record.stepsCompleted), ("totalSteps", .int record.totalSteps)])]
    ++ match record.error with
      | some error => if error.isEmpty then [] else [("error", .string error)]
      | none => []

end Record

end Runbook
