import Runbook.Definition

/-!
Outlines of step configurations: which fields there are, of what type, and what they default to.
-/

namespace Runbook.Outline

def typed (type : String) : Value :=
  .object [("type", .string type)]

/-- One alternative after another. -/
def anyOf (alternatives : List Value) : Value.Fields :=
  [("anyOf", .list alternatives)]

def titled (title : String) (fields : Value.Fields) : Value :=
  .object (fields ++ [("title", .string title)])

def described (description : String) (fields : Value.Fields) : Value.Fields :=
  ("description", .string description) :: fields

def textField (title : String) : Value :=
  titled title [("type", .string "string")]

def optionalTextFields : Value.Fields :=
  anyOf [typed "string", typed "null"] ++ [("default", .null)]

def anyField (title : String) : Value :=
  titled title [("default", .null)]

/-- A list of the objects defined under the given name. -/
def listOf (title definition : String) : Value :=
  titled title [("type", .string "array"),
    ("items", .object [("$ref", .string ("#/$defs/" ++ definition))])]

def object (title : String) (required : List String) (properties : Value.Fields) : Value.Fields :=
  [("properties", .object properties)]
    ++ (if required.isEmpty then [] else [("required", .strings required)])
    ++ [("title", .string title), ("type", .string "object")]

/-- The outline of a configuration of which nothing is known. -/
def unknown : Value :=
  .object [("type", .string "object"), ("properties", .object [])]

def aiProcessing : Value :=
  .object <| described "Prompt template sent to the text-completion service." <|
    object "AIProcessingConfig" ["prompt"] [
      ("prompt", titled "Prompt" (described "Prompt template with \x7bfield\x7d placeholders"
        [("type", .string "string")])),
      ("useCase", titled "Usecase" optionalTextFields),
      ("provider", titled "Provider" (described "Provider preference hint" optionalTextFields))]

def dataTransformation : Value :=
  .object <| ("$defs", .object [
      ("FieldMapping", .object (object "FieldMapping" ["source", "target"]
        [("source", textField "Source"), ("target", textField "Target")])),
      ("FieldMatch", .object (object "FieldMatch" ["field"]
        [("field", textField "Field"), ("value", anyField "Value")]))]) ::
    described "filter / map / aggregate over a list held in runtime data."
      (object "DataTransformationConfig" ["transformation"] [
        ("transformation", titled "Transformation"
          (described "filter, map or aggregate; others pass input through"
            [("type", .string "string")])),
        ("conditions", listOf "Conditions" "FieldMatch"),
        ("mappings", listOf "Mappings" "FieldMapping"),
        ("groupBy", titled "Groupby" optionalTextFields),
        ("source", titled "Source" (described "Runtime data field to transform" optionalTextFields)),
        ("replaceData", titled "Replacedata"
          [("default", .bool false), ("type", .string "boolean")])])

def notification : Value :=
  .object <| object "NotificationConfig" ["channel", "template"] [
    ("channel", textField "Channel"),
    ("template", titled "Template"
      (described "Notification template id" [("type", .string "string")])),
    ("recipients", titled "Recipients" (anyOf [
      .object [("items", typed "string"), ("type", .string "array")], typed "string"]))]

def apiCall : Value :=
  .object <| object "ApiCallConfig" ["url"] [
    ("url", titled "Url" [("minLength", .int 1), ("type", .string "string")]),
    ("method", titled "Method" [("default", .string "GET"), ("type", .string "string")]),
    ("headers", titled "Headers"
      [("additionalProperties", typed "string"), ("type", .string "object")]),
    ("bodyTemplate", titled "Bodytemplate" optionalTextFields)]

def condition : Value :=
  .object <| ("$defs", .object [
      ("ConditionClause", .object (object "ConditionClause" ["field", "operator"] [
        ("field", textField "Field"), ("operator", textField "Operator"),
        ("value", anyField "Value")]))]) ::
    object "ConditionConfig" [] [
      ("conditions", listOf "Conditions" "ConditionClause"),
      ("operator", titled "Operator" (described "AND, or anything else for OR"
        [("default", .string "AND"), ("type", .string "string")]))]

end Runbook.Outline
