import Runbook.Engine
import Runbook.Network.CompletionClient
import Runbook.Notification.Manager
import Runbook.Settings
import Runbook.Store.Catalogue
import Runbook.Store.ExecutionTable

/-!
The orchestrator as it is set up from settings: the engine over the stored catalogue, a network and
the tables of the execution log.
-/

namespace Runbook

/-- The world of an orchestrator: what is stored, and a network in state `ν`. -/
structure Premises (ν : Type) where
  catalogue : Store.Catalogue
  network : ν

namespace Premises

variable {ν α : Type}

/-- A dialogue with the network alone. -/
def overNetwork (x : Dialogue ν α) : Dialogue (Premises ν) α := fun premises =>
  let (reply, network) := x premises.network
  (reply, { premises with network })

/-- What is stored under an id. -/
def stored (find : Store.Catalogue → String → Except Failure (Option α)) :
    Service (Premises ν) String (Option α) := fun id premises =>
  match Store.Catalogue.find (find premises.catalogue) (.string id) with
  | .ok found => (.answered found, premises)
  | .error failure => (.raised failure, premises)

def lookup : Service (Premises ν) String (Option Definition) :=
  stored Store.Catalogue.workflow?

def template : Service (Premises ν) String (Option NotificationTemplate) :=
  stored fun catalogue id => .ok (catalogue.template? id)

end Premises

namespace Settings

variable {ν : Type}

def manager (settings : Settings) : NotificationManager :=
  (NotificationManager.empty.configure (.object settings.channels)).1

def completionClient (settings : Settings) : CompletionClient where
  url := settings.completionUrl
  key := settings.completionKey
  timeout := some (.double settings.completionTimeout)

def httpClient (settings : Settings) : HttpClient where
  defaultTimeout := some (.double settings.httpTimeout)
  followsRedirects := true

def collaborators (settings : Settings) (network : Network ν) : Collaborators (Premises ν) where
  template := some Premises.template
  completion := some fun call =>
    Premises.overNetwork (settings.completionClient.complete network call)
  notifier := some fun notification =>
    Premises.overNetwork (settings.manager.send network notification)
  http := some fun call => Premises.overNetwork (settings.httpClient.call network call)

def deadlines (settings : Settings) : Deadlines where
  enforced := settings.enforcesTimeouts
  default := settings.stepTimeout.map .double

/-- The engine that the settings ask for. -/
def engine (settings : Settings) (network : Network ν) :
    Engine (Premises ν) Store.ExecutionTables where
  clock premises := network.clock premises.network
  lookup := Premises.lookup
  registry := .standard (settings.collaborators network) settings.deadlines
  recorder := { sink := some Store.ExecutionTables.sink, stepsWanted := settings.recordsSteps }
  byDependency := settings.ordersByDependency

end Settings

end Runbook
