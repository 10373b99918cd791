import Runbook.Settings
import Runbook.Web.PathPattern

/-!
The routes of the web service: which path and method lead to what.
-/

namespace Runbook.Web

inductive Endpoint where
  | run
  | stepTypes
  | health
  | systemStatus
  | documentation
deriving DecidableEq, Repr

structure Route where
  path : PathPattern
  methods : List String
  endpoint : Endpoint
deriving DecidableEq, Repr

/-- Where a request leads. -/
inductive Destination where
  | found (endpoint : Endpoint)
  | wrongMethod (allowed : List String)
  /-- The path is known but for its last slash. -/
  | moved (path : String)
  | unknown
deriving DecidableEq, Repr

namespace Route

/-- A route; its path is a pattern. -/
def of (path : String) (methods : List String) (endpoint : Endpoint) : Route :=
  { path := ((PathPattern.ofText path).toOption).getD [], methods, endpoint }

def documentation (path : String) : Route :=
  of path ["GET", "HEAD"] .documentation

/-- The reports on the state of the service, under a root. -/
def reports (root : String) : List Route := [
  of (root ++ "/health") ["GET"] .health,
  of (root ++ "/health/status") ["GET"] .systemStatus]

/-- All routes; the documentation is for development only. -/
def all (settings : Settings) : List Route :=
  (if settings.isDevelopment
    then ["/docs", "/docs/oauth2-redirect", "/redoc"].map documentation else [])
  ++ reports "/api" ++ reports settings.apiRoot
  ++ [of (settings.apiRoot ++ "/workflows/execute") ["POST"] .run,
    of (settings.apiRoot ++ "/workflows/step-types") ["GET"] .stepTypes,
    of "/workflow-orchestrator" ["POST"] .run]

/-- What is wrong with the root of the versioned routes. -/
def rootFault? (root : String) : Option Failure :=
  if root.isEmpty then none
  else if !root.startsWith "/" then
    some (.other "AssertionError" "A path prefix must start with '/'")
  else if root.endsWith "/" then
    some (.other "AssertionError"
      "A path prefix must not end with '/', as the routes will start with '/'")
  else match PathPattern.ofText (root ++ "/health") with
    | .ok _ => none
    | .error failure => some failure

/-- The path without its last slashes, or with one more. -/
def otherPath (path : String) : String :=
  if path.endsWith "/" then
    String.ofList (path.toList.reverse.dropWhile (· == '/')).reverse
  else path ++ "/"

def leadsFrom (route : Route) (path : String) : Bool :=
  route.path.matchesPath path.toList

def find (routes : List Route) (method path : String) : Destination :=
  let candidates := routes.filter (·.leadsFrom path)
  match candidates.find? fun route => route.methods.contains method with
  | some route => .found route.endpoint
  | none => match candidates with
    | route :: _ => .wrongMethod route.methods
    | [] =>
      if path != "/" && routes.any (·.leadsFrom (otherPath path))
      then .moved (otherPath path) else .unknown

end Route

end Runbook.Web
