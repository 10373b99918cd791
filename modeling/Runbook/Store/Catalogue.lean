import Runbook.Definition.Decoding
import Runbook.Interaction
import Runbook.Store.Column

/-!
The catalogue: stored workflows and notification templates, one row for each id. Saving under an id
that is there already replaces the row and keeps its place.
-/

namespace Runbook.Store

structure WorkflowRow where
  id : String
  name : String
  description : String
  steps : Value
  isActive : Bool
deriving Repr

structure TemplateRow where
  id : String
  name : String
  subject : String
  content : String
deriving Repr

structure Catalogue where
  workflows : Entries WorkflowRow
  templates : Entries TemplateRow
deriving Repr

/-- A workflow as it is handed in for storing. -/
structure WorkflowDraft where
  id : Value
  steps : Value
  name : Value
  description : Value
  isActive : Value
deriving Repr

structure TemplateDraft where
  id : Value
  subject : Value
  content : Value
  name : Value
deriving Repr

namespace Catalogue

def empty : Catalogue := ⟨[], []⟩

/-- The default of a column applies to new rows only. -/
def forNew {α : Type} (isNew : Bool) (default : α) : Option α :=
  if isNew then some default else none

/-- The row of a draft; one without an id takes the fresh one. -/
def WorkflowDraft.row (catalogue : Catalogue) (fresh : String) (draft : WorkflowDraft) :
    Except ColumnFault WorkflowRow := do
  let id ← text "id" (some fresh) draft.id
  let isNew := !Entries.has catalogue.workflows id
  let name := text "name" (forNew isNew "") draft.name
  let description := text "description" (forNew isNew "") draft.description
  let isActive := boolean "is_active" (forNew isNew true) draft.isActive
  checkAll [faultOf name, faultOf description, faultOf isActive]
  return {
    id, name := ← name, description := ← description, steps := draft.steps, isActive := ← isActive }

def putWorkflow (catalogue : Catalogue) (row : WorkflowRow) : Catalogue :=
  { catalogue with workflows := Entries.put catalogue.workflows row.id row }

def saveWorkflow (catalogue : Catalogue) (fresh : String) (draft : WorkflowDraft) :
    Except ColumnFault Catalogue :=
  (WorkflowDraft.row catalogue fresh draft).map catalogue.putWorkflow

/-- The count of steps that is reported after saving, which not every value has. -/
def stepCount : Value → Except Failure Nat
  | .string s => .ok (Text.length s)
  | .list items => .ok items.length
  | .object fields => .ok fields.length
  | v => .error (.other "TypeError" s!"object of type '{v.kindName}' has no len()")

/-- The row of a draft; one without an id takes the fresh one. -/
def TemplateDraft.row (catalogue : Catalogue) (fresh : String) (draft : TemplateDraft) :
    Except ColumnFault TemplateRow := do
  let id ← text "id" (some fresh) draft.id
  let isNew := !Entries.has catalogue.templates id
  let name := text "name" (forNew isNew "") draft.name
  let subject := text "subject" (forNew isNew "") draft.subject
  let content := text "content" (forNew isNew "") draft.content
  checkAll [faultOf name, faultOf subject, faultOf content]
  return { id, name := ← name, subject := ← subject, content := ← content }

def putTemplate (catalogue : Catalogue) (row : TemplateRow) : Catalogue :=
  { catalogue with templates := Entries.put catalogue.templates row.id row }

def saveTemplate (catalogue : Catalogue) (fresh : String) (draft : TemplateDraft) :
    Except ColumnFault Catalogue :=
  (TemplateDraft.row catalogue fresh draft).map catalogue.putTemplate

/-- A row as a definition to be read; steps that amount to nothing are no steps. -/
def WorkflowRow.draft (row : WorkflowRow) : Value :=
  .object [("id", .string row.id), ("name", .string row.name),
    ("steps", if row.steps.isNothing then .list [] else row.steps)]

/-- The definition of an active workflow. -/
def workflow? (catalogue : Catalogue) (id : String) : Except Failure (Option Definition) :=
  match (Entries.get? catalogue.workflows id).filter WorkflowRow.isActive with
  | some row => (Definition.parse (WorkflowRow.draft row)).map some
  | none => .ok none

def template? (catalogue : Catalogue) (id : String) : Option NotificationTemplate :=
  (Entries.get? catalogue.templates id).map fun row =>
    { id := row.id, subject := row.subject, content := row.content }

/-- Looks up what a value names: its text as the column of ids would keep it. Null names nothing. -/
def find {α : Type} (lookup : String → Except Failure (Option α)) (id : Value) :
    Except Failure (Option α) :=
  match optionalText "id" id with
  | .ok (some id) => lookup id
  | .ok none => .ok none
  | .error fault => .error fault.toFailure

end Catalogue

def WorkflowRow.fields (row : WorkflowRow) : Value.Fields :=
  [("id", .string row.id), ("name", .string row.name), ("description", .string row.description),
    ("steps", row.steps), ("is_active", .bool row.isActive)]

def TemplateRow.fields (row : TemplateRow) : Value.Fields :=
  [("id", .string row.id), ("name", .string row.name), ("subject", .string row.subject),
    ("content", .string row.content)]

end Runbook.Store
