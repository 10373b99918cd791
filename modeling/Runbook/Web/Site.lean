import Runbook.Engine
import Runbook.Json.Strict
import Runbook.Json.Writer
import Runbook.Web.Form
import Runbook.Web.Origins
import Runbook.Web.Route

/-!
The web service: it runs the workflows that are asked for, lists the step types and reports on its
state. Every answer but that to a preflight carries the id of its request; a failure that nothing
else deals with becomes an answer too.
-/

namespace Runbook

/-- The first thing in the results that strict JSON has no form for. -/
def Record.fault? (data : Data) (record : Record) : Option Failure :=
  record.results.findSome? fun entry => match entry.2.outcome with
    | .success d => match data.strict d with
      | .ok _ => none
      | .error failure => some failure
    | .failure _ => none

namespace Web

/-- What the service tells of the machine that it runs on. -/
structure Host where
  version : String
  platform : String
deriving Repr

structure Site (σ τ : Type) where
  settings : Settings
  engine : Engine σ τ
  /-- Why the database is out of reach, if it is. -/
  databaseFault? : σ → Option String
  host : Host
  startedAt : Instant

/-- Ids for the run that a request may start and for the request itself, unless it brings one. -/
structure FreshIds where
  run : String
  request : String

/-- An answer as it leaves its endpoint: JSON is sent as UTF-8, in which not every text has a form. -/
def rendered (answer : Answer) : Reply Answer :=
  match answer.content with
  | .json v => match Failure.notUtf8? (Json.write Json.plain v) with
    | some failure => .raised failure
    | none => .answered answer
  | _ => .answered answer

/-- What has become of a request, and what it left behind. -/
structure Served (σ τ : Type) where
  reply : Reply Answer
  stage : Stage σ
  sink : τ

/-- What becomes of the request when the answer is rendered. -/
def Served.rendered {σ τ : Type} (served : Served σ τ) : Served σ τ :=
  { served with
    reply := match served.reply with
      | .answered answer => Web.rendered answer
      | reply => reply }

/-! ### Answers -/

/-- The orchestrator's own failures are answered with their status; others are not caught here. -/
def replyTo (failure : Failure) (now : Instant) : Reply Answer :=
  match failure.status? with
  | some status => .answered (.refusal status failure.message now)
  | none => .raised failure

/-- The summary of a run. -/
def summary (record : Record) (data : Data) : Answer :=
  .json (if record.status == .completed then 200 else 500)
    (.object (record.response fun d => match data.strict d with
      | .ok v => v
      | .error _ => .null))

/-- The status with which a run is turned away whose workflow could not be loaded. -/
def turnedAway? (record : Record) : Option Int :=
  match record.status, record.errorStatus with
  | .failed, some status => if status = 404 ∨ status = 422 then some status else none
  | _, _ => none

def replyWith (record : Record) (data : Data) (now : Instant) : Reply Answer :=
  match turnedAway? record with
  | some status => .answered (.refusal status (record.error.getD "") now)
  | none => match record.fault? data with
    | some failure => .raised failure
    | none => .answered (summary record data)

/-- Hours, minutes and seconds. -/
def durationText (seconds : Nat) : String :=
  s!"{seconds / 3600}h {seconds / 60 % 60}m {seconds % 60}s"

/-- The milliseconds in a count of microseconds, with two places. -/
def millisecondsText (micros : Nat) : String :=
  let hundredths := (micros + 5) / 10
  toString (hundredths / 100) ++ "." ++ Instant.padded 2 (hundredths % 100) ++ "ms"

namespace Site

variable {σ τ : Type}

def now (site : Site σ τ) (stage : Stage σ) : Instant :=
  site.engine.clock stage.world

/-! ### Endpoints -/

def submit (site : Site σ τ) (runId : String) (submission : Submission) (stage : Stage σ)
    (sink : τ) : Served σ τ :=
  let run := site.engine.run runId submission stage sink
  let now := site.now run.stage
  { reply := match run.ending with
      | .refused error => replyTo error.toFailure now
      | .finished record data => replyWith record data now
      | .escaped failure => replyTo failure now
      | .stalled => .hung
    stage := run.stage
    sink := run.sink }

def healthReport (settings : Settings) : Answer :=
  .json 200 (.object [("status", .string "healthy"), ("app", .string settings.appName),
    ("version", .string settings.appVersion), ("database", .string "ok")])

def illnessReport : Answer :=
  .detail 503 (.object [("status", .string "unhealthy"),
    ("checks", .object [("database", .string "unavailable")])])

def systemReport (site : Site σ τ) (now : Instant) : Answer :=
  let uptime := site.startedAt.microsecondsUntil now
  let settings := site.settings
  .json 200 (.object [("app", .string settings.appName), ("version", .string settings.appVersion),
    ("environment", .string settings.environment), ("started_at", .string site.startedAt.text),
    ("uptime", .string (durationText (uptime / 1000000))),
    ("uptime_seconds", .double (.ofDecimal false ((uptime + 50000) / 100000) (-1))),
    ("python", .object [("version", .string site.host.version),
      ("platform", .string site.host.platform)]),
    ("step_types", .strings (site.engine.registry.availableTypes.map StepType.name)),
    ("features", .object [
      ("dependency_ordered_execution", .bool settings.ordersByDependency),
      ("enforce_step_timeouts", .bool settings.enforcesTimeouts),
      ("record_step_results", .bool settings.recordsSteps)])])

def serve (site : Site σ τ) (endpoint : Endpoint) (runId : String) (request : Request)
    (stage : Stage σ) (sink : τ) : Served σ τ :=
  let answered (answer : Answer) : Served σ τ := { reply := .answered answer, stage, sink }
  match endpoint with
  | .run => match Form.read? request with
    | some (.valid submission) => site.submit runId submission stage sink
    | some (.invalid issues) =>
      answered (.refusal 422 (Form.complaint issues) (site.now stage))
    | none => answered (.detail 400 (.string "There was an error parsing the body"))
  | .stepTypes => answered (.json 200 site.engine.registry.listAll)
  | .health => match site.databaseFault? stage.world with
    | none => answered (healthReport site.settings)
    | some reason =>
      { reply := .answered illnessReport
        stage := stage.say .error ("Database health check failed: " ++ reason)
        sink }
  | .systemStatus => answered (site.systemReport (site.now stage))
  | .documentation => answered .page

def dispatch (site : Site σ τ) (runId : String) (request : Request) (stage : Stage σ) (sink : τ) :
    Served σ τ :=
  let answered (answer : Answer) : Served σ τ := { reply := .answered answer, stage, sink }
  match Route.find (Route.all site.settings) request.method request.path with
  | .found endpoint => site.serve endpoint runId request stage sink
  | .wrongMethod allowed => answered ((Answer.detail 405 (.string "Method Not Allowed")).withHeader
      "allow" (", ".intercalate allowed))
  | .moved path => answered (.moved (request.locate path))
  | .unknown => answered (.detail 404 (.string "Not Found"))

/-! ### Around the endpoints -/

/-- Requests to these paths leave no line in the log. -/
def quietPaths : List String := ["/api/health", "/api/v1/health"]

/-- The line in the log for a request that was answered. -/
def accessLine (request : Request) (status : Int) (micros : Nat) : String :=
  s!"{request.method} {request.shownPath} -> {status} ({(micros + 500) / 1000}ms)"

/-- What the caller is told of a failure that nothing deals with. -/
def disclosure (settings : Settings) (failure : Failure) : String :=
  if settings.isProduction || failure.message.isEmpty then "Internal server error"
  else failure.message

/-- Adds the id and the duration of the request to the answer and a line to the log, and turns a
failure into an answer. -/
def track (site : Site σ τ) (requestId : String) (request : Request) (start : Instant)
    (served : Served σ τ) : Served σ τ :=
  let now := site.now served.stage
  let micros := start.microsecondsUntil now
  match served.reply with
  | .answered answer => { served with
      reply := .answered ((answer.withHeader "x-request-id" requestId).withHeader
        "x-process-time" (millisecondsText micros))
      stage := if quietPaths.contains request.shownPath then served.stage
        else served.stage.say (if 400 ≤ answer.status then .warning else .info)
          (accessLine request answer.status micros) }
  | .raised failure =>
    let answer := Answer.refusal 500 (disclosure site.settings failure) now
    { served with
      reply := .answered (if requestId.isEmpty then answer
        else answer.withHeader "x-request-id" requestId)
      stage := served.stage.say .error "Unhandled exception" }
  | .hung => served

def policy (site : Site σ τ) : OriginPolicy :=
  { origins := site.settings.origins }

/-- A preflight, with the origin and the method that it is about. -/
def preflight? (request : Request) : Option (String × String) :=
  if request.method == "OPTIONS" then
    match request.header? "origin", request.header? "access-control-request-method" with
    | some origin, some method => some (origin, method)
    | _, _ => none
  else none

/-- The answer in the form that the method asks for. -/
def trimFor (method : String) (answer : Answer) : Answer :=
  if method == "HEAD" then answer.withoutContent else answer

/-- Takes a request to its answer. -/
def respond (site : Site σ τ) (ids : FreshIds) (request : Request) (stage : Stage σ) (sink : τ) :
    Served σ τ :=
  match preflight? request with
  | some (origin, method) =>
    { reply := .answered (site.policy.preflight origin method request), stage, sink }
  | none =>
    let requestId := (request.header? "x-request-id").getD ids.request
    let served := site.track requestId request (site.now stage)
      (site.dispatch ids.run request stage sink).rendered
    { served with
      reply := match served.reply with
        | .answered answer =>
          .answered (trimFor request.method (site.policy.mark request answer))
        | reply => reply }

end Site

end Web

end Runbook
