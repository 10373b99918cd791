import Runbook.Data
import Runbook.Text.Blank
import Runbook.Value.Literal

/-!
Requests to run a workflow. A submission holds whatever a caller sent; a run request is what is left
of it once it has been accepted.
-/

namespace Runbook

/-- How a run was started. -/
inductive Trigger where
  | manual
  | schedule
  | event
  | webhook
deriving DecidableEq, Repr, Inhabited

namespace Trigger

def all : List Trigger := [.manual, .schedule, .event, .webhook]

def name : Trigger → String
  | .manual => "manual"
  | .schedule => "schedule"
  | .event => "event"
  | .webhook => "webhook"

def ofName? (name : String) : Option Trigger :=
  all.find? fun trigger => trigger.name == name

theorem ofName?_name (trigger : Trigger) : ofName? trigger.name = some trigger := by
  cases trigger <;> decide

end Trigger

structure Submission where
  workflowId : Value
  userId : Value
  trigger : Value
  payload : Value
  metadata : Value
deriving Repr

structure RunRequest where
  workflowId : String
  userId : String
  trigger : Trigger
  payload : Value
  metadata : Value.Fields
deriving Repr

inductive RequestError where
  | workflowMissing
  | userMissing
  | unsupportedTrigger (trigger : Value)
  | metadataNotObject
deriving Repr

def RequestError.message : RequestError → String
  | .workflowMissing => "workflowId is required"
  | .userMissing => "userId is required"
  | .unsupportedTrigger trigger => s!"Unsupported trigger: {trigger.literal}"
  | .metadataNotObject => "metadata must be an object"

def RequestError.toFailure (error : RequestError) : Failure :=
  .invalidRequest error.message

namespace Submission

/-- A text that is not blank. -/
def solidText? : Value → Option String
  | .string s => if Text.allBlank s then none else some s
  | _ => none

def trigger? : Value → Option Trigger
  | .string s => Trigger.ofName? s
  | _ => none

/-- The metadata; null stands for none. -/
def metadata? : Value → Option Value.Fields
  | .object fields => some fields
  | .null => some []
  | _ => none

/-- The request that a submission makes, or the first thing that is wrong with it. -/
def accept (submission : Submission) : Except RequestError RunRequest :=
  match solidText? submission.workflowId with
  | none => .error .workflowMissing
  | some workflowId => match solidText? submission.userId with
    | none => .error .userMissing
    | some userId => match trigger? submission.trigger with
      | none => .error (.unsupportedTrigger submission.trigger)
      | some trigger => match metadata? submission.metadata with
        | none => .error .metadataNotObject
        | some metadata =>
          .ok { workflowId, userId, trigger, payload := submission.payload, metadata }

end Submission

/-- The fields of an object payload, or any other payload but null as the default field. -/
def RunRequest.payloadFields (request : RunRequest) : Value.Fields :=
  match request.payload with
  | .object fields => fields
  | .null => []
  | v => [(Data.defaultField, v)]

/-- The runtime data that a run starts with. The requesting user replaces a user in the payload. -/
def RunRequest.initialData (request : RunRequest) : Data :=
  Entries.put (Data.ofFields request.payloadFields) Data.userField
    (.value (.string request.userId))

end Runbook
