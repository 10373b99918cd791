import Runbook.Condition
import Runbook.Executor
import Runbook.Executor.Outline
import Runbook.Template
import Runbook.Text.Case
import Runbook.Transformation

/-!
The executors of the five step types.
-/

namespace Runbook

/-- The services that executors may call; one that is missing makes the steps in need of it fail. -/
structure Collaborators (σ : Type) where
  /-- The notification template with an id, if there is one. -/
  template : Option (Service σ String (Option NotificationTemplate))
  completion : Option (Service σ CompletionCall Value)
  notifier : Option (Service σ Notification Acknowledgement)
  http : Option (Service σ HttpCall HttpAnswer)

namespace Executor

variable {σ : Type}

def failed (error : String) : Interaction σ Outcome :=
  pure (.failure (some error))

/-! ### Text completion -/

def AiProcessing.notDone (reason : String) : Outcome :=
  .failure (some ("AI processing failed: " ++ reason))

/-- The call for a prompt, on behalf of the requesting user. -/
def AiProcessing.call (config : AiConfig) (prompt : String) (data : Data)
    (timeout : Option Number) : CompletionCall where
  prompt := prompt
  useCase := config.useCase
  user := (Entries.get? data Data.userField).getD (.value .null)
  provider := config.provider
  timeout := timeout

/-- The outcome of a completion: a bad status and a failed transport are failures of the step. -/
def AiProcessing.outcome : Reply Value × Stage σ → Reply Outcome × Stage σ
  | (.answered v, stage) => (.answered (.success (.value v)), stage)
  | (.raised (.completion status _), stage) => (.answered (notDone (toString status)), stage)
  | (.raised (.transport _ message), stage) => (.answered (notDone message), stage)
  | (.raised failure, stage) => (.raised failure, stage)
  | (.hung, stage) => (.hung, stage)

def AiProcessing.execute (completion : Option (Service σ CompletionCall Value))
    (config : AiConfig) (data : Data) (timeout : Option Number) : Interaction σ Outcome :=
  match completion with
  | none => pure (notDone "completion service not configured")
  | some service => do
    let prompt ← Dialogue.ofExcept (Template.resolve config.prompt data)
    let call := call config prompt data timeout
    fun stage => outcome (Interaction.perform (.completion call) service call stage)

/-! ### Transformation and condition -/

def DataTransformation.execute (config : TransformationConfig) (data : Data) :
    Interaction σ Outcome :=
  match config.run data with
  | .ok d => pure (.success d)
  | .error error => Dialogue.raise error.toFailure

def Condition.execute (config : ConditionConfig) (data : Data) : Interaction σ Outcome := do
  let verdict ← Dialogue.ofExcept (config.evaluate data)
  return .success (.value verdict.toValue)

/-! ### Notification -/

/-- The result of a delivery. -/
def Notify.outcome (ack : Acknowledgement) : Outcome :=
  match ack.delivery with
  | .undelivered error => .failure (some ("Notification delivery failed: " ++ error))
  | .delivered message time => .success (.value (.object [
      ("sent", .bool true), ("channel", .string ack.channel),
      ("recipients", .strings ack.recipients), ("message", .string message),
      ("deliveredAt", .string time.text)]))

def Notify.deliver (notifier : Service σ Notification Acknowledgement)
    (config : NotificationConfig) (template : NotificationTemplate) (data : Data) :
    Interaction σ Outcome := do
  let subject ← Dialogue.ofExcept (Template.resolve template.subject data)
  let content ← Dialogue.ofExcept (Template.resolve template.content data)
  let message : Notification :=
    { channel := config.channel, recipients := config.recipients.toList, subject, content }
  let ack ← Interaction.perform (.notification message) notifier message
  return outcome ack

def Notify.execute (template : Option (Service σ String (Option NotificationTemplate)))
    (notifier : Option (Service σ Notification Acknowledgement))
    (config : NotificationConfig) (data : Data) : Interaction σ Outcome :=
  match template, notifier with
  | some lookup, some notifier => do
    match ← Interaction.consult lookup config.template with
    | none => failed "Notification template not found"
    | some template =>
      if (Channel.ofName? config.channel).isSome then deliver notifier config template data
      else failed ("Unsupported notification channel: " ++ config.channel)
  | _, _ => failed "Notification collaborators not configured"

/-! ### API call -/

/-- The method in capitals; an empty one means `GET`. -/
def ApiCall.method (config : ApiCallConfig) : String :=
  Text.upper (if config.method.isEmpty then "GET" else config.method)

/-- The body, which `GET` does not have. -/
def ApiCall.body (config : ApiCallConfig) (data : Data) : Except Failure (Option String) :=
  match config.bodyTemplate with
  | some template =>
    if method config == "GET" then .ok none else (Template.resolve template data).map some
  | none => .ok none

def ApiCall.headers (data : Data) : Entries String → Except Failure (Entries String)
  | [] => .ok []
  | (name, template) :: rest => do
    let text ← Template.resolve template data
    let others ← headers data rest
    return (name, text) :: others

def ApiCall.outcome (answer : HttpAnswer) : Outcome :=
  if answer.ok then .success (.value answer.body)
  else .failure (some s!"API call failed: {answer.status}")

def ApiCall.execute (http : Option (Service σ HttpCall HttpAnswer)) (config : ApiCallConfig)
    (data : Data) (timeout : Option Number) : Interaction σ Outcome :=
  match http with
  | none => failed "API call failed: HTTP client not configured"
  | some service => do
    let body ← Dialogue.ofExcept (body config data)
    let headers ← Dialogue.ofExcept (headers data config.headers)
    let call : HttpCall := { method := method config, url := config.url, headers, body, timeout }
    let answer ← Interaction.perform (.http call) service call
    return outcome answer

/-! ### The set of them -/

/-- What a step does, by its configuration. -/
def execute (collaborators : Collaborators σ) (step : Step) (data : Data)
    (timeout : Option Number) : Interaction σ Outcome :=
  match step.config with
  | .aiProcessing config => AiProcessing.execute collaborators.completion config data timeout
  | .dataTransformation config => DataTransformation.execute config data
  | .notification config =>
    Notify.execute collaborators.template collaborators.notifier config data
  | .apiCall config => ApiCall.execute collaborators.http config data timeout
  | .condition config => Condition.execute config data

/-- The executor of a step type. -/
def standard (collaborators : Collaborators σ) (type : StepType) : Executor σ :=
  let executor (displayName description : String) (configSchema : Value) : Executor σ :=
    { type, displayName, description, configSchema
      procedure := .guarded (execute collaborators) }
  match type with
  | .aiProcessing => executor "AI Processing"
      "Run a prompt template through the AI text-completion service" Outline.aiProcessing
  | .dataTransformation => executor "Data Transformation"
      "Filter, map or aggregate a list of records" Outline.dataTransformation
  | .notification => executor "Notification"
      "Send a templated email, Slack or SMS notification" Outline.notification
  | .apiCall => executor "API Call" "Make an HTTP request to an external API" Outline.apiCall
  | .condition => executor "Condition" "Evaluate conditions against runtime data"
      Outline.condition

end Executor

end Runbook
