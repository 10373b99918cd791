import Runbook.Store.Catalogue

/-!
A demonstration workflow that sorts support tickets and notifies a team lead.
-/

namespace Runbook.Store.Demo

def workflowId : String := "demo-ticket-triage"

def templateId : String := "ticket-digest"

def step (id name : String) (type : StepType) (config : Value.Fields) (more : Value.Fields) :
    Value :=
  .object ([("id", .string id), ("name", .string name), ("type", .string type.name),
    ("config", .object config)] ++ more)

def steps : List Value := [
  step "open_tickets" "Keep open tickets" .dataTransformation
    [("transformation", .string "filter"),
      ("conditions", .list [.object [("field", .string "status"), ("value", .string "open")]]),
      ("replaceData", .bool true)] [],
  step "by_team" "Group by team" .dataTransformation
    [("transformation", .string "aggregate"), ("groupBy", .string "team")]
    [("dependencies", .strings ["open_tickets"])],
  step "summary" "Summarize backlog" .aiProcessing
    [("prompt", .string
        "Summarize these open support tickets for \x7bteam_lead\x7d: \x7bdata\x7d"),
      ("useCase", .string "ticket_summary")]
    [("dependencies", .strings ["open_tickets"]), ("timeout", .int 60)],
  step "is_urgent" "Escalation check" .condition
    [("conditions", .list [.object [("field", .string "priority"),
      ("operator", .string "equals"), ("value", .string "high")]])] [],
  step "notify_lead" "Email team lead" .notification
    [("channel", .string "email"), ("template", .string templateId),
      ("recipients", .strings ["support-leads@example.com"])] []]

def workflow : WorkflowRow where
  id := workflowId
  name := "Ticket triage"
  description := "Filter open tickets, group them, summarize and notify the team lead"
  steps := .list steps
  isActive := true

def template : TemplateRow where
  id := templateId
  name := "Ticket digest"
  subject := "Ticket digest for \x7bteam_lead\x7d"
  content := "Open tickets: \x7bdata\x7d"

/-- The types of the steps as they are read back, for a message. -/
def typesText (definition : Definition) : String :=
  (Value.strings (definition.steps.map (·.type.name))).literal

/-- Stores the demonstration and reads it back; the lines tell what was done. -/
def seed (catalogue : Catalogue) : Catalogue × Except Failure (List String) :=
  let catalogue := (catalogue.putTemplate template).putWorkflow workflow
  (catalogue, match catalogue.workflow? workflowId with
    | .ok (some definition) => .ok [
        s!"[seed] Notification template stored: {templateId}",
        s!"[seed] Workflow stored: {workflowId} ({steps.length} steps)",
        s!"[seed] Workflow validated: {typesText definition}"]
    | .ok none => .error (.notFound "Workflow not found")
    | .error failure => .error failure)

end Runbook.Store.Demo
