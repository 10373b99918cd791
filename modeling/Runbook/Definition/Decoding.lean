import Runbook.Definition
import Runbook.Failure
import Runbook.Schema
import Runbook.Value.Literal

/-!
Reading workflow definitions. Every field is checked on its own, so one broken step hides nothing of
the others; the step ids are compared when all else is right.
-/

namespace Runbook

open Schema

def AiConfig.decode : Decoder AiConfig :=
  model "AIProcessingConfig" fun fields =>
    Decoded.valid AiConfig.mk
      |>.part (required fields ["prompt"] text)
      |>.part (optional fields ["useCase", "use_case"] none (nullable text))
      |>.part (optional fields ["provider"] none (nullable text))

def FieldMatch.decode : Decoder FieldMatch :=
  model "FieldMatch" fun fields =>
    Decoded.valid FieldMatch.mk
      |>.part (required fields ["field"] text)
      |>.part (optional fields ["value"] .null anything)

def FieldMapping.decode : Decoder FieldMapping :=
  model "FieldMapping" fun fields =>
    Decoded.valid FieldMapping.mk
      |>.part (required fields ["source"] text)
      |>.part (required fields ["target"] text)

def TransformationConfig.decode : Decoder TransformationConfig :=
  model "DataTransformationConfig" fun fields =>
    Decoded.valid TransformationConfig.mk
      |>.part (required fields ["transformation"] text)
      |>.part (optional fields ["conditions"] [] (list FieldMatch.decode))
      |>.part (optional fields ["mappings"] [] (list FieldMapping.decode))
      |>.part (optional fields ["groupBy", "group_by"] none (nullable text))
      |>.part (optional fields ["source"] none (nullable text))
      |>.part (optional fields ["replaceData", "replace_data"] false boolean)

/-- A list of names or one name; a value that is neither has the problems of both. -/
def Recipients.decode : Decoder Recipients := fun v =>
  match list text v, text v with
  | .valid names, _ => .valid (.many names)
  | _, .valid name => .valid (.one name)
  | asList, asName =>
    .invalid ((asList.under "list[str]").issues ++ (asName.under "str").issues)

def NotificationConfig.decode : Decoder NotificationConfig :=
  model "NotificationConfig" fun fields =>
    Decoded.valid NotificationConfig.mk
      |>.part (required fields ["channel"] text)
      |>.part (required fields ["template"] text)
      |>.part (optional fields ["recipients"] (.many []) Recipients.decode)

def ApiCallConfig.decode : Decoder ApiCallConfig :=
  model "ApiCallConfig" fun fields =>
    Decoded.valid ApiCallConfig.mk
      |>.part (required fields ["url"] nonEmptyText)
      |>.part (optional fields ["method"] "GET" text)
      |>.part (optional fields ["headers"] [] (entries text))
      |>.part (optional fields ["bodyTemplate", "body_template"] none (nullable text))

def Clause.decode : Decoder Clause :=
  model "ConditionClause" fun fields =>
    Decoded.valid Clause.mk
      |>.part (required fields ["field"] text)
      |>.part (required fields ["operator"] text)
      |>.part (optional fields ["value"] .null anything)

def ConditionConfig.decode : Decoder ConditionConfig :=
  model "ConditionConfig" fun fields =>
    Decoded.valid ConditionConfig.mk
      |>.part (optional fields ["conditions"] [] (list Clause.decode))
      |>.part (optional fields ["operator"] "AND" text)

def StepConfig.decode : StepType → Decoder StepConfig
  | .aiProcessing => fun v => (AiConfig.decode v).map .aiProcessing
  | .dataTransformation => fun v => (TransformationConfig.decode v).map .dataTransformation
  | .notification => fun v => (NotificationConfig.decode v).map .notification
  | .apiCall => fun v => (ApiCallConfig.decode v).map .apiCall
  | .condition => fun v => (ConditionConfig.decode v).map .condition

/-- The fields of a step whose type is known. -/
def Step.decodeAs (type : StepType) (fields : Value.Fields) : Decoded Step :=
  Decoded.valid Step.mk
    |>.part (required fields ["id"] nonEmptyText)
    |>.part (optional fields ["name"] none (nullable text))
    |>.part (optional fields ["dependencies"] [] (list text))
    |>.part (optional fields ["timeout"] none (nullable positiveNumber))
    |>.part (required fields ["config"] (StepConfig.decode type))

/-- A step; its `type` says which configuration it has. -/
def Step.decode : Decoder Step
  | .object fields => match Entries.get? fields "type" with
    | none => .fail .noTag
    | some tag => match (match tag with | .string s => StepType.ofName? s | _ => none) with
      | some type => (Step.decodeAs type fields).under type.name
      | none => .fail (.unknownTag tag.literal)
  | _ => .fail .noFields

/-- The first id that repeats an earlier one. -/
def firstRepeated? (seen : List String) : List String → Option String
  | [] => none
  | id :: rest => if seen.contains id then some id else firstRepeated? (id :: seen) rest

def Definition.checkIds (definition : Definition) : Decoded Definition :=
  match firstRepeated? [] (definition.steps.map (·.id)) with
  | some id => .fail (.duplicateStep id)
  | none => .valid definition

/-- The fields of a definition, without the comparison of step ids. -/
def Definition.decodeFields : Decoder Definition :=
  model "WorkflowDefinition" fun fields =>
    Decoded.valid Definition.mk
      |>.part (required fields ["id"] nonEmptyText)
      |>.part (optional fields ["name"] none (nullable text))
      |>.part (optional fields ["steps"] [] (list Step.decode))

def Definition.decode : Decoder Definition := fun v =>
  (Definition.decodeFields v).andThen Definition.checkIds

def Definition.problemText (issues : List Issue) : String :=
  "Invalid workflow definition: " ++ "; ".intercalate (issues.map Issue.text)

/-- A definition that can be run, or the failure that lists what is wrong with it. -/
def Definition.parse (v : Value) : Except Failure Definition :=
  match Definition.decode v with
  | .valid definition => .ok definition
  | .invalid issues => .error (.invalidDefinition (Definition.problemText issues))

def NotificationTemplate.decode : Decoder NotificationTemplate :=
  model "NotificationTemplate" fun fields =>
    Decoded.valid NotificationTemplate.mk
      |>.part (required fields ["id"] text)
      |>.part (optional fields ["subject"] "" text)
      |>.part (optional fields ["content"] "" text)

end Runbook
