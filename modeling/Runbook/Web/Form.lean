import Runbook.Json.Reader
import Runbook.Network.MediaType
import Runbook.Request
import Runbook.Schema
import Runbook.Web.Message

/-!
The form in which a run is asked for: a JSON object in the body of a request.
-/

namespace Runbook.Web

open Schema

namespace Form

def trigger : Decoder Trigger := fun v =>
  match Submission.trigger? v with
  | some trigger => .valid trigger
  | none => .fail .notTrigger

def decodeFields (fields : Value.Fields) : Decoded Submission :=
  Decoded.valid (fun workflow user (trigger : Trigger) payload metadata =>
      { workflowId := .string workflow
        userId := .string user
        trigger := .string trigger.name
        payload
        metadata := .object (Option.getD metadata []) })
    |>.part (required fields ["workflowId", "workflow_id"] nonEmptyText)
    |>.part (required fields ["userId", "user_id"] nonEmptyText)
    |>.part (optional fields ["trigger"] .manual trigger)
    |>.part (optional fields ["data"] .null anything)
    |>.part (optional fields ["metadata"] none (nullable (entries anything)))

def decode : Decoder Submission
  | .object fields => decodeFields fields
  | _ => .fail .noFields

/-- Whether a body of the type that a request names is JSON; so is a body whose type it leaves
open. -/
def isJson (request : Request) : Bool :=
  match request.header? "content-type" with
  | some header => header.isEmpty || MediaType.isJson header
  | none => true

/-- The submission that a request makes, or all that is wrong with its body; nothing when the body
holds text that cannot be read at all. -/
def read? (request : Request) : Option (Decoded Submission) :=
  if request.body.isEmpty then some (.fail .missing)
  else if !isJson request then some (.fail .noFields)
  else match Json.readBytes request.body with
    | .ok v => some (decode v)
    | .error (.unreadable position) => some (.invalid [⟨[toString position], .brokenJson⟩])
    | .error _ => none

/-- The words for what is wrong with a form. -/
def complaint (issues : List Issue) : String :=
  "Invalid request: " ++ "; ".intercalate (issues.map Issue.located)

end Form

end Runbook.Web
