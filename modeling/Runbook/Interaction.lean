import Runbook.Definition
import Runbook.Data
import Runbook.Log
import Runbook.Notification

/-!
How steps act on the world. A service answers a call, raises a failure, or never comes back; a
dialogue strings such calls together, and an interaction also keeps a trace of the calls and of what
was logged.
-/

namespace Runbook

/-- What a call came to. -/
inductive Reply (α : Type) where
  | answered (a : α)
  | raised (failure : Failure)
  | hung
deriving Repr

/-- A computation in a world with state `σ`: it answers, raises a failure or hangs, and leaves the world
as it is then. -/
def Dialogue (σ α : Type) := σ → Reply α × σ

namespace Dialogue

variable {σ α β : Type}

instance : Monad (Dialogue σ) where
  pure a := fun world => (.answered a, world)
  bind x f := fun world => match x world with
    | (.answered a, world) => f a world
    | (.raised failure, world) => (.raised failure, world)
    | (.hung, world) => (.hung, world)

def raise (failure : Failure) : Dialogue σ α :=
  fun world => (.raised failure, world)

def ofExcept : Except Failure α → Dialogue σ α
  | .ok a => pure a
  | .error failure => raise failure

@[simp] theorem pure_apply (a : α) (world : σ) :
    (pure a : Dialogue σ α) world = (.answered a, world) := rfl

theorem bind_apply (x : Dialogue σ α) (f : α → Dialogue σ β) (world : σ) :
    (x >>= f) world = match x world with
      | (.answered a, world) => f a world
      | (.raised failure, world) => (.raised failure, world)
      | (.hung, world) => (.hung, world) := rfl

end Dialogue

/-- A service of a world in state `σ`. -/
abbrev Service (σ α β : Type) := α → Dialogue σ β

/-- A request for a text completion. -/
structure CompletionCall where
  prompt : String
  useCase : Option String
  user : Datum
  provider : Option String
  timeout : Option Number
deriving Repr, BEq

structure HttpCall where
  method : String
  url : String
  headers : Entries String
  body : Option String
  timeout : Option Number
deriving Repr, BEq

structure HttpAnswer where
  status : Int
  body : Value
  headers : Entries String
deriving Repr, BEq

/-- Whether the status is one of success. -/
def HttpAnswer.ok (answer : HttpAnswer) : Bool :=
  200 ≤ answer.status && answer.status < 300

inductive Call where
  | completion (call : CompletionCall)
  | notification (message : Notification)
  | http (call : HttpCall)
deriving Repr, BEq

/-- The world, the calls made so far and what was logged, the oldest first. -/
structure Stage (σ : Type) where
  world : σ
  calls : List Call
  log : List LogEntry

namespace Stage

variable {σ : Type}

def start (world : σ) : Stage σ :=
  { world, calls := [], log := [] }

def note (stage : Stage σ) (level : Level) (title : String) (fields : Value.Fields) : Stage σ :=
  { stage with log := stage.log ++ [.event level title fields] }

def say (stage : Stage σ) (level : Level) (text : String) : Stage σ :=
  { stage with log := stage.log ++ [.line level text] }

end Stage

/-- A computation that may call services. -/
abbrev Interaction (σ α : Type) := Dialogue (Stage σ) α

namespace Interaction

variable {σ α β : Type}

/-- Asks a service without leaving a trace. -/
def consult (service : Service σ α β) (a : α) : Interaction σ β :=
  fun stage =>
    let (reply, world) := service a stage.world
    (reply, { stage with world })

/-- Calls a service; the call is kept whatever becomes of it. -/
def perform (call : Call) (service : Service σ α β) (a : α) : Interaction σ β :=
  fun stage => consult service a { stage with calls := stage.calls ++ [call] }

end Interaction

end Runbook
