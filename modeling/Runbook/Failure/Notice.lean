import Runbook.Failure
import Runbook.Value.Literal

/-!
Notices of the orchestrator's own kinds of failure, raised with parts of any kind. A part that is left
out has a usual value.
-/

namespace Runbook

/-- The orchestrator's own kinds of failure. -/
inductive FailureKind where
  | general
  | notFound
  | invalidRequest
  | invalidDefinition
  | stepFailed
  | completion
  | engineFault
  | recorder
deriving DecidableEq, Repr

namespace FailureKind

def all : List FailureKind := [
  .general, .notFound, .invalidRequest, .invalidDefinition, .stepFailed, .completion, .engineFault,
  .recorder]

/-- A failure of the kind. -/
def sample : FailureKind → Failure
  | .general => .general "" 500
  | .notFound => .notFound "Resource not found"
  | .invalidRequest => .invalidRequest "Validation failed"
  | .invalidDefinition => .invalidDefinition "Invalid workflow definition"
  | .stepFailed => .stepFailed "Step execution failed"
  | .completion => .completion 0 ""
  | .engineFault => .engineFault "Engine fault"
  | .recorder => .recorder "Failed to record execution"

def name (kind : FailureKind) : String :=
  kind.sample.name

def ofName? (name : String) : Option FailureKind :=
  all.find? fun kind => kind.name == name

/-- The part that has no usual value, if there is one. -/
def requiredPart? : FailureKind → Option String
  | .general => some "message"
  | .completion => some "status"
  | _ => none

/-- The usual status of a response to a failure of the kind. -/
def statusCode (kind : FailureKind) : Value :=
  .ofOption .int kind.sample.status?

end FailureKind

structure Notice where
  kind : FailureKind
  message : Value
  /-- The status of a response to the failure. -/
  statusCode : Value
  /-- The status that the completion service answered with. -/
  status : Option Value
deriving Repr

namespace Notice

/-- The failure to raise a notice with so many parts. -/
def miscounted (kind : FailureKind) (count : Nat) : Failure :=
  .other "TypeError" (match kind.requiredPart?, count with
    | some part, 0 =>
      s!"{kind.name}.__init__() missing 1 required positional argument: " ++ Value.showText part
    | required, count =>
      let least := if required.isSome then 2 else 1
      s!"{kind.name}.__init__() takes from {least} to {least + 1} positional arguments but "
        ++ s!"{count + 1} were given")

/-- The message about a status of the completion service; one that counts as nothing is left out. -/
def completionMessage (status message : Value) : Value :=
  if message.isNothing then .string ("Completion service returned status " ++ status.literal)
  else message

/-- Raises a failure of a kind with the given parts. -/
def raise (kind : FailureKind) (parts : List Value) : Except Failure Notice :=
  match kind, parts with
  | .general, [message] => .ok { kind, message, statusCode := kind.statusCode, status := none }
  | .general, [message, statusCode] => .ok { kind, message, statusCode, status := none }
  | .general, parts => .error (miscounted kind parts.length)
  | .completion, [status] => .ok {
      kind, message := completionMessage status .null
      statusCode := kind.statusCode, status := some status }
  | .completion, [status, message] => .ok {
      kind, message := completionMessage status message
      statusCode := kind.statusCode, status := some status }
  | .completion, parts => .error (miscounted kind parts.length)
  | kind, [] => .ok {
      kind, message := .string kind.sample.message
      statusCode := kind.statusCode, status := none }
  | kind, [message] => .ok { kind, message, statusCode := kind.statusCode, status := none }
  | kind, parts => .error (miscounted kind parts.length)

def text (notice : Notice) : String :=
  notice.message.literal

/-- The kinds that the failure is an instance of, the nearest first. -/
def lineage (notice : Notice) : List String :=
  notice.kind.sample.lineage

end Notice

end Runbook
