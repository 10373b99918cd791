import Runbook.Interaction
import Runbook.Record

/-!
Executors carry out the steps of one type. A guarded executor only says what a step does; deadlines
and failures are seen to here, so that a run of it always gives a result unless it hangs with no
deadline to end that. A bare executor answers for itself.
-/

namespace Runbook

/-- What an executor hands back: a result, or something else of the given kind. -/
inductive Returned where
  | result (result : StepResult)
  | foreign (kind : String)
deriving Repr

inductive Procedure (σ : Type) where
  /-- Given a step, the runtime data and the deadline to pass on to services. -/
  | guarded (execute : Step → Data → Option Number → Interaction σ Outcome)
  | bare (run : Step → Data → Interaction σ Returned)

structure Executor (σ : Type) where
  type : StepType
  displayName : String
  description : String
  /-- The outline of the configuration of its steps. -/
  configSchema : Value
  procedure : Procedure σ

/-- How long steps may take, in seconds. -/
structure Deadlines where
  enforced : Bool
  /-- For steps without a timeout of their own. -/
  default : Option Number
deriving Repr

/-- A deadline of zero is none. -/
def binding? (deadline : Option Number) : Option Number :=
  deadline.filter fun seconds => !seconds.isZero

/-- The deadline of a step, if it has one. A timeout of zero is none, so that the default stands. -/
def Deadlines.effective (deadlines : Deadlines) (step : Step) : Option Number :=
  if deadlines.enforced then (binding? (step.timeout.map .double)).or deadlines.default
  else none

/-- A time that never comes. -/
def Number.isEndless : Number → Bool
  | .double (.infinite false) => true
  | _ => false

def Number.briefText : Number → String
  | .int n => (Double.ofInt n).briefText
  | .double d => d.briefText

def timedOutText (seconds : Number) : String :=
  s!"Step timed out after {seconds.briefText}s"

/-- The failure that a step's own failure is treated as: one about time is no missed deadline. -/
def stepFailure : Failure → Failure
  | .timedOut message => .stepFailed (Failure.timedOut message).text
  | failure => failure

namespace Executor

variable {σ : Type}

def optionalNumber (n : Option Number) : Value :=
  .ofOption .number n

/-- The outcome of what was executed; a failure becomes a failed outcome and is logged. -/
def settle (step : Step) : Reply Outcome × Stage σ → Reply Outcome × Stage σ
  | (.raised failure, stage) =>
    let failure := stepFailure failure
    (.answered (.failure (some failure.text)), stage.note .error "Step raised" [
      ("step_id", .string step.id), ("step_type", .string step.type.name),
      ("error", .string failure.message)])
  | settled => settled

/-- The failure to take a number as a time. -/
def oversized : Failure :=
  .other "OverflowError" "int too large to convert to float"

/-- Executes under a deadline. One that has passed already leaves nothing to start, and neither does
one too far away to be a time; a call that hangs is given up when the deadline passes, if it ever
does. -/
def underDeadline (step : Step) (deadline : Option Number) (execute : Interaction σ Outcome) :
    Interaction σ Outcome := fun stage =>
  match binding? deadline with
  | none => settle step (execute stage)
  | some seconds =>
    let missed := Outcome.failure (some (timedOutText seconds))
    if seconds.isNonPositive then
      (if seconds.isOversized then .raised oversized else .answered missed, stage)
    else if seconds.isOversized then settle step (.raised oversized, stage)
    else match settle step (execute stage) with
      | (.hung, stage) => (if seconds.isEndless then .hung else .answered missed, stage)
      | settled => settled

/-- The whole course of a guarded step: announced, executed, timed and reported. -/
def guard (clock : σ → Instant) (step : Step) (deadline : Option Number)
    (execute : Interaction σ Outcome) : Interaction σ StepResult := fun stage =>
  let start := clock stage.world
  let stage := stage.note .info "Step starting" [
    ("step_id", .string step.id), ("step_type", .string step.type.name),
    ("timeout", optionalNumber deadline)]
  match underDeadline step deadline execute stage with
  | (.answered outcome, stage) =>
    let level := if outcome.isSuccess then Level.info else Level.warning
    let duration := start.millisecondsUntil (clock stage.world)
    (.answered { outcome, executionTimeMs := duration },
      stage.note level "Step finished" [
        ("step_id", .string step.id), ("step_type", .string step.type.name),
        ("success", .bool outcome.isSuccess), ("error", .optionalText outcome.error?),
        ("duration_ms", .int duration)])
  | (.raised failure, stage) => (.raised failure, stage)
  | (.hung, stage) => (.hung, stage)

/-- Runs a step. -/
def run (executor : Executor σ) (clock : σ → Instant) (deadlines : Deadlines) (step : Step)
    (data : Data) : Interaction σ Returned :=
  match executor.procedure with
  | .guarded execute =>
    let deadline := deadlines.effective step
    do return .result (← guard clock step deadline (execute step data deadline))
  | .bare run => run step data

end Executor

end Runbook
