import Runbook.Entries
import Runbook.Value

/-!
Workflow definitions: an ordered list of steps, each with a configuration of its type.
-/

namespace Runbook

/-- The closed set of step types. -/
inductive StepType where
  | aiProcessing
  | dataTransformation
  | notification
  | apiCall
  | condition
deriving DecidableEq, Repr, Inhabited

namespace StepType

def all : List StepType :=
  [.aiProcessing, .dataTransformation, .notification, .apiCall, .condition]

def name : StepType → String
  | .aiProcessing => "ai_processing"
  | .dataTransformation => "data_transformation"
  | .notification => "notification"
  | .apiCall => "api_call"
  | .condition => "condition"

def ofName? (name : String) : Option StepType :=
  all.find? fun type => type.name == name

theorem ofName?_name (type : StepType) : ofName? type.name = some type := by
  cases type <;> decide

end StepType

/-- A prompt template for the completion service. -/
structure AiConfig where
  prompt : String
  useCase : Option String
  provider : Option String
deriving Repr, BEq

/-- A field that must hold exactly the given value. -/
structure FieldMatch where
  field : String
  value : Value
deriving Repr, BEq

structure FieldMapping where
  source : String
  target : String
deriving Repr, BEq, DecidableEq

/-- Filtering, mapping or grouping of a list held in runtime data. -/
structure TransformationConfig where
  transformation : String
  conditions : List FieldMatch
  mappings : List FieldMapping
  groupBy : Option String
  source : Option String
  replaceData : Bool
deriving Repr, BEq

inductive Recipients where
  | many (names : List String)
  | one (name : String)
deriving Repr, BEq, DecidableEq

def Recipients.toList : Recipients → List String
  | .many names => names
  | .one name => if name.isEmpty then [] else [name]

structure NotificationConfig where
  channel : String
  template : String
  recipients : Recipients
deriving Repr, BEq

structure ApiCallConfig where
  url : String
  method : String
  headers : Entries String
  bodyTemplate : Option String
deriving Repr, BEq

/-- One comparison of a field with a value. -/
structure Clause where
  field : String
  operator : String
  value : Value
deriving Repr, BEq

structure ConditionConfig where
  conditions : List Clause
  operator : String
deriving Repr, BEq

inductive StepConfig where
  | aiProcessing (config : AiConfig)
  | dataTransformation (config : TransformationConfig)
  | notification (config : NotificationConfig)
  | apiCall (config : ApiCallConfig)
  | condition (config : ConditionConfig)
deriving Repr, BEq

def StepConfig.type : StepConfig → StepType
  | .aiProcessing _ => .aiProcessing
  | .dataTransformation _ => .dataTransformation
  | .notification _ => .notification
  | .apiCall _ => .apiCall
  | .condition _ => .condition

structure Step where
  id : String
  name : Option String
  dependencies : List String
  /-- The step's own deadline in seconds. -/
  timeout : Option Double
  config : StepConfig
deriving Repr, BEq

def Step.type (step : Step) : StepType :=
  step.config.type

structure Definition where
  id : String
  name : Option String
  steps : List Step
deriving Repr, BEq

/-- A stored notification text with placeholders. -/
structure NotificationTemplate where
  id : String
  subject : String
  content : String
deriving Repr, BEq, DecidableEq

def AiConfig.toValue (config : AiConfig) : Value :=
  .object [("prompt", .string config.prompt), ("useCase", .optionalText config.useCase),
    ("provider", .optionalText config.provider)]

def FieldMatch.toValue (m : FieldMatch) : Value :=
  .object [("field", .string m.field), ("value", m.value)]

def FieldMapping.toValue (m : FieldMapping) : Value :=
  .object [("source", .string m.source), ("target", .string m.target)]

def TransformationConfig.toValue (config : TransformationConfig) : Value :=
  .object [("transformation", .string config.transformation),
    ("conditions", .list (config.conditions.map FieldMatch.toValue)),
    ("mappings", .list (config.mappings.map FieldMapping.toValue)),
    ("groupBy", .optionalText config.groupBy), ("source", .optionalText config.source),
    ("replaceData", .bool config.replaceData)]

def Recipients.toValue : Recipients → Value
  | .many names => .strings names
  | .one name => .string name

def NotificationConfig.toValue (config : NotificationConfig) : Value :=
  .object [("channel", .string config.channel), ("template", .string config.template),
    ("recipients", config.recipients.toValue)]

def ApiCallConfig.toValue (config : ApiCallConfig) : Value :=
  .object [("url", .string config.url), ("method", .string config.method),
    ("headers", .object (Entries.mapValues .string config.headers)),
    ("bodyTemplate", .optionalText config.bodyTemplate)]

def Clause.toValue (clause : Clause) : Value :=
  .object [("field", .string clause.field), ("operator", .string clause.operator),
    ("value", clause.value)]

def ConditionConfig.toValue (config : ConditionConfig) : Value :=
  .object [("conditions", .list (config.conditions.map Clause.toValue)),
    ("operator", .string config.operator)]

def StepConfig.toValue : StepConfig → Value
  | .aiProcessing config => config.toValue
  | .dataTransformation config => config.toValue
  | .notification config => config.toValue
  | .apiCall config => config.toValue
  | .condition config => config.toValue

def Step.toValue (step : Step) : Value :=
  .object [("id", .string step.id), ("name", .optionalText step.name),
    ("dependencies", .strings step.dependencies), ("timeout", .ofOption .double step.timeout),
    ("type", .string step.type.name), ("config", step.config.toValue)]

/-- A definition as it is written, every field present and named by its alias. -/
def Definition.toValue (definition : Definition) : Value :=
  .object [("id", .string definition.id), ("name", .optionalText definition.name),
    ("steps", .list (definition.steps.map Step.toValue))]

def NotificationTemplate.toValue (template : NotificationTemplate) : Value :=
  .object [("id", .string template.id), ("subject", .string template.subject),
    ("content", .string template.content)]

end Runbook
