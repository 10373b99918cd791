import Runbook.Definition.Decoding
import Runbook.Executor.Standard

/-!
A rehearsal: a world whose services act by script and whose clock stands still.
-/

namespace Runbook

inductive Behaviour (α : Type) where
  | answer (a : α)
  | raise (failure : Failure)
  | hang
deriving Repr

/-- Behaviours for one call after another; the last goes on for ever. -/
structure Script (α : Type) where
  current : Behaviour α
  later : List (Behaviour α)
deriving Repr

def Behaviour.reply {α : Type} : Behaviour α → Reply α
  | .answer a => .answered a
  | .raise failure => .raised failure
  | .hang => .hung

namespace Script

variable {α : Type}

/-- The script of a list of behaviours, or one behaviour for ever when there are none. -/
def ofList (default : Behaviour α) : List (Behaviour α) → Script α
  | [] => { current := default, later := [] }
  | current :: later => { current, later }

def next (script : Script α) : Reply α × Script α :=
  (script.current.reply, match script.later with
    | [] => script
    | behaviour :: later => { current := behaviour, later })

end Script

structure Rehearsal where
  definitions : Entries Definition
  /-- Definitions that are read anew at each lookup; they come before the others. -/
  drafts : Entries Value
  templates : Entries NotificationTemplate
  lookupFailure : Option Failure
  templateFailure : Option Failure
  completion : Script Value
  notifier : Script Delivery
  http : Script HttpAnswer
  now : Instant

namespace Rehearsal

def clock (world : Rehearsal) : Instant := world.now

def findDefinition (world : Rehearsal) (id : String) : Except Failure (Option Definition) :=
  match world.lookupFailure with
  | some failure => .error failure
  | none => match Entries.get? world.drafts id with
    | some draft => (Definition.parse draft).map some
    | none => .ok (Entries.get? world.definitions id)

def lookup : Service Rehearsal String (Option Definition) := fun id world =>
  match world.findDefinition id with
  | .ok definition => (.answered definition, world)
  | .error failure => (.raised failure, world)

def template : Service Rehearsal String (Option NotificationTemplate) := fun id world =>
  match world.templateFailure with
  | some failure => (.raised failure, world)
  | none => (.answered (Entries.get? world.templates id), world)

def complete : Service Rehearsal CompletionCall Value := fun _ world =>
  let (reply, completion) := world.completion.next
  (reply, { world with completion })

def notify : Service Rehearsal Notification Acknowledgement := fun message world =>
  let (reply, notifier) := world.notifier.next
  let ack (delivery : Delivery) : Acknowledgement :=
    { channel := message.channel, recipients := message.recipients, delivery }
  (match reply with
    | .answered delivery => .answered (ack delivery)
    | .raised failure => .raised failure
    | .hung => .hung,
    { world with notifier })

def call : Service Rehearsal HttpCall HttpAnswer := fun _ world =>
  let (reply, http) := world.http.next
  (reply, { world with http })

/-- All services at hand. -/
def collaborators : Collaborators Rehearsal where
  template := some template
  completion := some complete
  notifier := some notify
  http := some call

end Rehearsal

/-- What an executor that stands in for another does with every step. -/
inductive StandIn where
  | escapes (failure : Failure)
  | returnsForeign (kind : String)
  | raises (failure : Failure)
  | hangs
  | fails (error : String)
  | returns (v : Value)
deriving Repr

namespace StandIn

variable {σ : Type}

def procedure : StandIn → Procedure σ
  | .escapes failure => .bare fun _ _ => Dialogue.raise failure
  | .returnsForeign kind => .bare fun _ _ => pure (.foreign kind)
  | .raises failure => .guarded fun _ _ _ => Dialogue.raise failure
  | .hangs => .guarded fun _ _ _ stage => (.hung, stage)
  | .fails error => .guarded fun _ _ _ => pure (.failure (some error))
  | .returns v => .guarded fun _ _ _ => pure (.success (.value v))

def executor (standIn : StandIn) (type : StepType) (displayName : String) : Executor σ where
  type := type
  displayName := displayName
  description := "Abstract base task"
  configSchema := Outline.unknown
  procedure := standIn.procedure

end StandIn

end Runbook
