import Runbook.Recorder
import Runbook.Store.Column

/-!
The execution log as tables: one row for each run, whose id is unique, and one for each recorded
step. Rows are only ever added, and an entry that is refused leaves the tables as they were.
-/

namespace Runbook.Store

structure ExecutionRow where
  executionId : String
  workflowId : String
  userId : String
  trigger : String
  status : String
  results : Value
  error : Option String
  executionTime : Value
  stepsCompleted : Value
  totalSteps : Value
  metadata : Value
deriving Repr

structure StepRow where
  executionId : String
  workflowId : String
  stepId : String
  success : Bool
  result : Value
  error : Option String
  executionTime : Value
deriving Repr

structure ExecutionTables where
  executions : List ExecutionRow
  steps : List StepRow
deriving Repr

namespace ExecutionTables

def empty : ExecutionTables := ⟨[], []⟩

/-- What keeps an entry out: a name that it lacks, or a column that refuses its value. -/
inductive EntryFault where
  | missing (name : String)
  | refused (fault : ColumnFault)
deriving DecidableEq, Repr

def needed (fields : Value.Fields) (name : String) : Except EntryFault Value :=
  match Entries.get? fields name with
  | some v => .ok v
  | none => .error (.missing name)

def optionalField (fields : Value.Fields) (name : String) (default : Value) : Value :=
  (Entries.get? fields name).getD default

def column {α : Type} : Except ColumnFault α → Except EntryFault α
  | .ok a => .ok a
  | .error fault => .error (.refused fault)

/-- The row of a run entry. Names are looked up before the columns take their values. -/
def ExecutionRow.ofFields (fields : Value.Fields) : Except EntryFault ExecutionRow := do
  let executionId ← needed fields "execution_id"
  let workflowId ← needed fields "workflow_id"
  let userId ← needed fields "user_id"
  let trigger ← needed fields "trigger"
  let status ← needed fields "status"
  let executionId := text "execution_id" none executionId
  let workflowId := text "workflow_id" none workflowId
  let userId := text "user_id" none userId
  let trigger := text "trigger" (some "manual") trigger
  let status := text "status" (some "completed") status
  let error := optionalText "error" (optionalField fields "error" .null)
  let number (name : String) := integer name (optionalField fields name .null)
  column (checkAll [
    faultOf executionId, faultOf workflowId, faultOf userId, faultOf trigger, faultOf status,
    faultOf error, faultOf (number "execution_time"), faultOf (number "steps_completed"),
    faultOf (number "total_steps")])
  return {
    executionId := ← column executionId
    workflowId := ← column workflowId
    userId := ← column userId
    trigger := ← column trigger
    status := ← column status
    error := ← column error
    executionTime := ← column (number "execution_time")
    stepsCompleted := ← column (number "steps_completed")
    totalSteps := ← column (number "total_steps")
    results := optionalField fields "results" .null
    metadata := optionalField fields "metadata" .null }

def StepRow.ofFields (fields : Value.Fields) : Except EntryFault StepRow := do
  let executionId ← needed fields "execution_id"
  let workflowId ← needed fields "workflow_id"
  let stepId ← needed fields "step_id"
  let success ← needed fields "success"
  let executionId := text "execution_id" none executionId
  let workflowId := text "workflow_id" none workflowId
  let stepId := text "step_id" none stepId
  let success := boolean "success" (some false) success
  let error := optionalText "error" (optionalField fields "error" .null)
  let executionTime := integer "execution_time" (optionalField fields "executionTimeMs" .null)
  column (checkAll [
    faultOf executionId, faultOf workflowId, faultOf stepId, faultOf success, faultOf error,
    faultOf executionTime])
  return {
    executionId := ← column executionId
    workflowId := ← column workflowId
    stepId := ← column stepId
    success := ← column success
    error := ← column error
    executionTime := ← column executionTime
    result := optionalField fields "result" .null }

/-- The failure to record something, told by what it was. -/
def EntryFault.toFailure (what : String) : EntryFault → Failure
  | .missing name => .other "KeyError" s!"'{name}'"
  | .refused .tooLarge => ColumnFault.tooLarge.toFailure
  | .refused (.notUtf8 complaint) => (ColumnFault.notUtf8 complaint).toFailure
  | .refused fault => .recorder s!"Failed to record {what}: {fault.message}"

/-- Adds the row of a run, unless there is one with its id. -/
def insert (tables : ExecutionTables) (row : ExecutionRow) : Except EntryFault ExecutionTables :=
  if tables.executions.any fun other => other.executionId == row.executionId then
    .error (.refused (.duplicate "execution_id"))
  else .ok { tables with executions := tables.executions ++ [row] }

def insertStep (tables : ExecutionTables) (row : StepRow) : ExecutionTables :=
  { tables with steps := tables.steps ++ [row] }

/-- What a name in an entry says, for a message. -/
def nameIn (fields : Value.Fields) (name : String) : String :=
  (optionalField fields name .null).literal

/-- The tables with a run entry added. -/
def append (tables : ExecutionTables) (fields : Value.Fields) : Except Failure ExecutionTables :=
  match (ExecutionRow.ofFields fields).bind tables.insert with
  | .ok tables => .ok tables
  | .error fault => .error (fault.toFailure ("execution " ++ nameIn fields "execution_id"))

/-- The tables with a step entry added. -/
def appendStep (tables : ExecutionTables) (fields : Value.Fields) :
    Except Failure ExecutionTables :=
  match StepRow.ofFields fields with
  | .ok row => .ok (tables.insertStep row)
  | .error fault => .error (fault.toFailure ("step " ++ nameIn fields "step_id"))

/-- The outcome for a sink: the new tables, or the failure and the tables as they were. -/
def settled (tables : ExecutionTables) : Except Failure ExecutionTables →
    Option Failure × ExecutionTables
  | .ok tables => (none, tables)
  | .error failure => (some failure, tables)

/-- The form in which a datum is stored. -/
def stored (data : Data) (d : Datum) : Value :=
  match data.resolve d with
  | .ok v => v
  | .error _ => .null

def refersToWhole (result : StepResult) : Bool :=
  match result.outcome with
  | .success .whole => true
  | _ => false

/-- The sink that writes to the tables. Results that contain themselves cannot be written. -/
def sink : Sink ExecutionTables where
  append entry tables :=
    settled tables <|
      if entry.data.isCircular && entry.record.results.any fun r => refersToWhole r.2 then
        .error ((EntryFault.refused .notEncodable).toFailure
          ("execution " ++ entry.record.executionId))
      else tables.append (entry.record.logEntry (stored entry.data))
  appendStep entry tables :=
    settled tables <|
      if entry.data.isCircular && refersToWhole entry.result then
        .error ((EntryFault.refused .notEncodable).toFailure ("step " ++ entry.step))
      else tables.appendStep (entry.fields (stored entry.data))

end ExecutionTables

def ExecutionRow.fields (row : ExecutionRow) : Value.Fields :=
  [("execution_id", .string row.executionId), ("workflow_id", .string row.workflowId),
    ("user_id", .string row.userId), ("trigger", .string row.trigger),
    ("status", .string row.status), ("results", row.results), ("error", .optionalText row.error),
    ("execution_time", row.executionTime), ("steps_completed", row.stepsCompleted),
    ("total_steps", row.totalSteps), ("metadata_", row.metadata)]

def StepRow.fields (row : StepRow) : Value.Fields :=
  [("execution_id", .string row.executionId), ("workflow_id", .string row.workflowId),
    ("step_id", .string row.stepId), ("success", .bool row.success), ("result", row.result),
    ("error", .optionalText row.error), ("execution_time", row.executionTime)]

end Runbook.Store
