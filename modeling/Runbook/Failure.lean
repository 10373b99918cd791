import Runbook.Text.Code

/-!
What can go wrong, by cause. `Failure.name` is the kind shown where a failure has no words of its
own; `Failure.message` are its words.
-/

namespace Runbook

/-- Failures of an exchange over the network. -/
inductive TransportFault where
  | connect
  | readTimeout
  | protocol
  /-- The other side does not keep to the protocol. -/
  | remoteProtocol
  /-- A body cannot be unpacked. -/
  | decoding
  | tooManyRedirects
deriving DecidableEq, Repr

/-- The name of a kind of failure. -/
structure KindName where
  text : String
  text_ne_empty : text ≠ ""
deriving DecidableEq, Repr

/-- A kind that is given no name is taken for the most general one. -/
def KindName.ofText (text : String) : KindName :=
  if h : text = "" then ⟨"Exception", by decide⟩ else ⟨text, h⟩

inductive Failure where
  /-- A failure of the orchestrator without a nearer cause, with its response status. -/
  | general (message : String) (status : Int)
  | notFound (message : String)
  | invalidRequest (message : String)
  | invalidDefinition (message : String)
  | stepFailed (message : String)
  /-- The completion service answered with a status that is no success. -/
  | completion (status : Int) (message : String)
  | engineFault (message : String)
  | recorder (message : String)
  | transport (cause : TransportFault) (message : String)
  | invalidAddress (message : String)
  | timedOut (message : String)
  | circular
  /-- A number that JSON has no form for. -/
  | outOfRange
  | ofKind (kind : KindName) (message : String)
deriving DecidableEq, Repr

def TransportFault.name : TransportFault → String
  | .connect => "ConnectError"
  | .readTimeout => "ReadTimeout"
  | .protocol => "ProtocolError"
  | .remoteProtocol => "RemoteProtocolError"
  | .decoding => "DecodingError"
  | .tooManyRedirects => "TooManyRedirects"

namespace Failure

/-- A failure of none of the kinds above. -/
def other (name message : String) : Failure :=
  .ofKind (.ofText name) message

/-- The failure to write a text in UTF-8, if it has no form there. -/
def notUtf8? (s : String) : Option Failure :=
  (Text.utf8Complaint? s).map (other "UnicodeEncodeError")

/-- The failure to write a text in ASCII, if it has no form there. -/
def notAscii? (s : String) : Option Failure :=
  (Text.asciiComplaint? s).map (other "UnicodeEncodeError")

def name : Failure → String
  | .general .. => "OrchestratorException"
  | .notFound _ => "NotFoundError"
  | .invalidRequest _ => "ValidationError"
  | .invalidDefinition _ => "WorkflowDefinitionError"
  | .stepFailed _ => "StepExecutionError"
  | .completion .. => "CompletionError"
  | .engineFault _ => "EngineFault"
  | .recorder _ => "RecorderError"
  | .transport cause _ => cause.name
  | .invalidAddress _ => "InvalidURL"
  | .timedOut _ => "TimeoutError"
  | .circular => "ValueError"
  | .outOfRange => "ValueError"
  | .ofKind kind _ => kind.text

def message : Failure → String
  | .general message _ => message
  | .notFound message => message
  | .invalidRequest message => message
  | .invalidDefinition message => message
  | .stepFailed message => message
  | .completion _ message => message
  | .engineFault message => message
  | .recorder message => message
  | .transport _ message => message
  | .invalidAddress message => message
  | .timedOut message => message
  | .circular => "Circular reference detected"
  | .outOfRange => "Out of range float values are not JSON compliant"
  | .ofKind _ message => message

/-- The response status of the failures that have one. -/
def status? : Failure → Option Int
  | .general _ status => some status
  | .notFound _ => some 404
  | .invalidRequest _ => some 422
  | .invalidDefinition _ => some 422
  | .stepFailed _ => some 500
  | .completion .. => some 500
  | .engineFault _ => some 500
  | .recorder _ => some 500
  | _ => none

/-- The words of a failure, or its kind when it has none. -/
def text (failure : Failure) : String :=
  if failure.message.isEmpty then failure.name else failure.message

/-- The kinds that a failure is an instance of, the nearest first. -/
def lineage : Failure → List String
  | .general .. => ["OrchestratorException"]
  | .invalidDefinition _ =>
    ["WorkflowDefinitionError", "ValidationError", "OrchestratorException"]
  | .completion .. => ["CompletionError", "StepExecutionError", "OrchestratorException"]
  | failure =>
    if failure.status?.isSome then [failure.name, "OrchestratorException"] else [failure.name]

/-- The words for a status of the completion service when it sends none. -/
def completionText (status : Int) : String :=
  s!"Completion service returned status {status}"

/-- The failure of a kind that needs no more than words, with the usual words for the orchestrator's
own kinds when none are given. -/
def ofName? (name : String) (message : Option String) : Option Failure :=
  match name with
  | "NotFoundError" => some (.notFound (message.getD "Resource not found"))
  | "ValidationError" => some (.invalidRequest (message.getD "Validation failed"))
  | "WorkflowDefinitionError" =>
    some (.invalidDefinition (message.getD "Invalid workflow definition"))
  | "StepExecutionError" => some (.stepFailed (message.getD "Step execution failed"))
  | "EngineFault" => some (.engineFault (message.getD "Engine fault"))
  | "RecorderError" => some (.recorder (message.getD "Failed to record execution"))
  | "ConnectError" => some (.transport .connect (message.getD ""))
  | "ReadTimeout" => some (.transport .readTimeout (message.getD ""))
  | "ProtocolError" => some (.transport .protocol (message.getD ""))
  | "TooManyRedirects" => some (.transport .tooManyRedirects (message.getD ""))
  | "InvalidURL" => some (.invalidAddress (message.getD ""))
  | "TimeoutError" => some (.timedOut (message.getD ""))
  | _ => none

/-- The failure of a completion service that answered with a bad status. -/
def ofCompletionStatus (status : Int) (message : Option String) : Failure :=
  match message with
  | some words => .completion status (if words.isEmpty then completionText status else words)
  | none => .completion status (completionText status)

theorem name_ne_empty (failure : Failure) : failure.name ≠ "" := by
  cases failure with
  | transport cause message => cases cause <;> simp [name, TransportFault.name]
  | ofKind kind message => exact kind.text_ne_empty
  | _ => simp [name]

theorem text_ne_empty (failure : Failure) : failure.text ≠ "" := by
  unfold text
  split
  · exact failure.name_ne_empty
  · next hmessage => exact fun hempty => hmessage (by simp [hempty])

end Failure

end Runbook
