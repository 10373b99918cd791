import Runbook.Instant
import Runbook.Log
import Runbook.Log.Console
import Runbook.Log.Format
import Runbook.Settings
import Runbook.Text.Case

/-!
What is logged and how: the least level of each logger, the form of the lines, and the fields that
every entry carries.
-/

namespace Runbook

def Level.severity : Level → Nat
  | .debug => 10
  | .info => 20
  | .warning => 30
  | .error => 40
  | .critical => 50

/-- The level of a call by the word that names it. -/
def Level.ofCall? : String → Option Level
  | "debug" => some .debug
  | "info" => some .info
  | "warning" | "warn" => some .warning
  | "error" | "exception" => some .error
  | "critical" | "fatal" => some .critical
  | _ => none

/-- The least level that is let through. -/
inductive Threshold where
  | everything
  | atLeast (level : Level)
deriving DecidableEq, Repr

namespace Threshold

def name : Threshold → String
  | .everything => "NOTSET"
  | .atLeast level => level.name.toUpper

def passes : Threshold → Level → Bool
  | .everything, _ => true
  | .atLeast least, level => least.severity ≤ level.severity

/-- The threshold that a word stands for; an unknown word stands for `INFO`. The name of the basic form
of a line is known, but is no level. -/
def ofWord (word : String) : Except Failure Threshold :=
  match Text.upper word with
  | "NOTSET" => .ok .everything
  | "DEBUG" => .ok (.atLeast .debug)
  | "WARNING" | "WARN" => .ok (.atLeast .warning)
  | "ERROR" => .ok (.atLeast .error)
  | "CRITICAL" | "FATAL" => .ok (.atLeast .critical)
  | "BASIC_FORMAT" =>
    .error (.other "ValueError" "Unknown level: '%(levelname)s:%(name)s:%(message)s'")
  | _ => .ok (.atLeast .info)

end Threshold

inductive LineForm where
  | json
  | console
deriving DecidableEq, Repr

structure LogPolicy where
  root : Threshold
  /-- The loggers with a threshold of their own. -/
  own : List (String × Threshold)
  form : LineForm
  service : String
  environment : String
deriving Repr

/-- A call to a logger. -/
structure LogCall where
  /-- The name of the logger; the root has an empty name too. -/
  logger : String
  /-- The word that names the level. -/
  word : String
  event : String
  arguments : List Value
  /-- The fields of a structured call; a plain one has none. -/
  fields : Option Value.Fields
deriving Repr

namespace LogPolicy

/-- Text is for development only, unless the format says otherwise. -/
def chooseForm (format : String) (isDevelopment : Bool) : LineForm :=
  if format == "text" || (isDevelopment && format != "json") then .console else .json

/-- The policy that the settings ask for. -/
def ofSettings (settings : Settings) : Except Failure LogPolicy :=
  (Threshold.ofWord settings.logLevel).map fun root => {
    root
    own := [("uvicorn.access", .atLeast .warning), ("httpx", .atLeast .warning),
      ("httpcore", .atLeast .warning), ("sqlalchemy", .atLeast .warning),
      ("sqlalchemy.engine", .atLeast (if settings.echoesSql then .info else .warning))]
    form := chooseForm settings.logFormat.toLower settings.isDevelopment
    service := settings.appName
    environment := settings.environment }

/-- The threshold of the nearest part of a dotted name that has one of its own, else the root's. The
parts are given from the innermost. -/
def thresholdFor (policy : LogPolicy) : List String → Threshold
  | [] => policy.root
  | part :: outer =>
    match policy.own.lookup (".".intercalate (part :: outer).reverse) with
    | some threshold => threshold
    | none => thresholdFor policy outer

def threshold (policy : LogPolicy) (logger : String) : Threshold :=
  policy.thresholdFor (logger.splitOn ".").reverse

/-- Adds fields; one that is there already is replaced. -/
def addAll (fields more : Value.Fields) : Value.Fields :=
  more.foldl (fun fields entry => Entries.put fields entry.1 entry.2) fields

/-- Adds a field unless it is there already. -/
def addMissing (fields : Value.Fields) (name : String) (v : Value) : Value.Fields :=
  if Entries.has fields name then fields else Entries.put fields name v

/-! ### Calls -/

/-- The arguments of a call; a single object that is not empty is looked into. -/
def argumentsOf : List Value → Format.Arguments
  | [.object (field :: fields)] => .single (.object (field :: fields))
  | values => .row values

def fillEvent (event : String) (arguments : List Value) : Except Failure String :=
  if arguments.isEmpty then .ok event else Format.fill event (argumentsOf arguments)

/-- The name of a logger as entries show it. -/
def loggerName (call : LogCall) : String :=
  if call.logger.isEmpty then "root" else call.logger

/-- Fields that say something about the entry itself and do not stay in it. -/
def passingFields : List String := ["exc_info", "stack_info", "_record", "_from_structlog"]

/-- The fields that are added to those of a call. -/
def complete (policy : LogPolicy) (now : Instant) (call : LogCall) (level : Level) (event : String)
    (fields : Value.Fields) : Value.Fields :=
  let fields := addAll fields [
    ("logger", .string (loggerName call)), ("level", .string level.name), ("event", .string event),
    ("timestamp", .string now.zuluText)]
  let fields := addMissing (addMissing fields "service" (.string policy.service)) "environment"
    (.string policy.environment)
  fields.filter fun entry => !passingFields.contains entry.1

/-- The failure to make a structured call with a field that has the name of one of its own parts. -/
def clash? (word : String) (fields : Value.Fields) : Option Failure :=
  let failure (function name : String) : Failure :=
    .other "TypeError" (s!"BoundLogger.{function}() got multiple values for argument "
      ++ Value.showText name)
  match (Entries.keys fields).find? fun name => name == "self" || name == "event" with
  | some name => some (failure (if word == "warn" then "warning" else word) name)
  | none => if Entries.has fields "method_name" then some (failure "_proxy_to_logger" "method_name")
    else none

/-- The name of the field that holds arguments. -/
def argumentField : String := "positional_args"

/-- The arguments that a field holds; a field that counts as nothing holds none. -/
def heldArguments? (v : Value) : Except Failure (Option Format.Arguments) :=
  if v.isNothing then .ok none
  else match v with
    | .list [.object (field :: fields)] => .ok (some (.single (.object (field :: fields))))
    | .object [_] => .error (.other "KeyError" "0")
    | .list _ => .ok (some (.single v))
    | .object _ => .ok (some (.single v))
    | .string _ => .ok (some (.single v))
    | v => .error (.other "TypeError" s!"object of type '{v.kindName}' has no len()")

/-- The event of a structured call with its arguments filled in. -/
def structuredEvent (call : LogCall) (fields : Value.Fields) : Except Failure String :=
  if call.arguments.isEmpty then match Entries.get? fields argumentField with
    | none => .ok call.event
    | some v => do match ← heldArguments? v with
      | none => return call.event
      | some arguments => Format.fill call.event arguments
  else fillEvent call.event call.arguments

/-- The failure of a structured call to tell the name of its logger. -/
def recordFailure? (fields : Value.Fields) : Option Failure :=
  match Entries.get? fields "_record" with
  | none => none
  | some .null => none
  | some v => some (.other "AttributeError" s!"'{v.kindName}' object has no attribute 'name'")

/-- The fields of a structured call in a context. What is wrong with the call counts even when its
level is too low. -/
def structured (policy : LogPolicy) (context : Value.Fields) (now : Instant) (call : LogCall)
    (level : Level) (fields : Value.Fields) : Except Failure Value.Fields :=
  match (clash? call.word fields).or (recordFailure? fields) with
  | some failure => .error failure
  | none => do
    let event ← structuredEvent call fields
    let fields := fields.filter fun entry =>
      !(entry.1 == argumentField && (!call.arguments.isEmpty || !(entry.2 matches .null)))
    return policy.complete now call level event (addAll context fields)

/-- The failure to call a logger by a word that names no level. -/
def unknownCall (call : LogCall) : Failure :=
  let kind := if call.fields.isSome then "BoundLogger"
    else if loggerName call == "root" then "RootLogger" else "Logger"
  .other "AttributeError" s!"'{kind}' object has no attribute {Value.showText call.word}"

/-- The entry that a call makes in a context, if it is let through. A plain call whose arguments do
not fit makes none. -/
def entry? (policy : LogPolicy) (context : Value.Fields) (now : Instant) (call : LogCall) :
    Except Failure (Option Value.Fields) :=
  match Level.ofCall? call.word with
  | none => .error (unknownCall call)
  | some level =>
    let passes := (policy.threshold call.logger).passes level
    match call.fields with
    | some fields => (policy.structured context now call level fields).map fun entry =>
      if passes then some entry else none
    | none => match fillEvent call.event call.arguments with
      | .ok event => .ok (if passes then some (policy.complete now call level event context) else none)
      | .error _ => .ok none

/-- The entries that calls make. -/
def entries (policy : LogPolicy) (context : Value.Fields) (now : Instant) (calls : List LogCall) :
    Except Failure (List Value.Fields) := do
  return (← calls.mapM (policy.entry? context now)).filterMap id

end LogPolicy

/-- The context of a run. -/
def runContext (executionId workflowId : String) : Value.Fields :=
  [("execution_id", .string executionId), ("workflow_id", .string workflowId)]

end Runbook
