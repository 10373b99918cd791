import Mathlib.Data.List.Induction
import Runbook.Proofs.Store.Column
import Runbook.Store.Catalogue

/-!
# What the catalogue gives back

A history of saves leaves a catalogue in which an id stands for the latest save under it. The rows of
the two tables are compared with what the history holds under each id; one more save changes both in
the same way. A lookup comes to the rows exactly if UTF-8 has a form for the id, and fails before
otherwise.
-/

namespace Runbook

namespace Store

/-- A save that succeeds: its texts can be stored. -/
structure WorkflowSave where
  id : String
  steps : List Value
  name : String
  description : String
  isActive : Bool
  encodable : ∀ s ∈ [id, name, description], Text.isEncodable s = true

structure TemplateSave where
  id : String
  subject : String
  content : String
  name : String
  encodable : ∀ s ∈ [id, subject, content, name], Text.isEncodable s = true

inductive Save where
  | workflow (save : WorkflowSave)
  | template (save : TemplateSave)

namespace WorkflowSave

def draft (save : WorkflowSave) : WorkflowDraft where
  id := .string save.id
  steps := .list save.steps
  name := .string save.name
  description := .string save.description
  isActive := .bool save.isActive

def row (save : WorkflowSave) : WorkflowRow where
  id := save.id
  name := save.name
  description := save.description
  steps := .list save.steps
  isActive := save.isActive

def definition (save : WorkflowSave) : Value :=
  .object [("id", .string save.id), ("name", .string save.name), ("steps", .list save.steps)]

/-- No steps amount to nothing and are read as no steps, so that nothing is lost. -/
theorem draft_row (save : WorkflowSave) : Catalogue.WorkflowRow.draft save.row = save.definition := by
  obtain ⟨id, steps, name, description, isActive, hencodable⟩ := save
  cases steps <;> rfl

theorem saveWorkflow_draft (save : WorkflowSave) (catalogue : Catalogue) (fresh : String) :
    catalogue.saveWorkflow fresh save.draft = .ok (catalogue.putWorkflow save.row) := by
  have hid := save.encodable save.id (by simp)
  have hname := save.encodable save.name (by simp)
  have hdescription := save.encodable save.description (by simp)
  simp only [Catalogue.saveWorkflow, Catalogue.WorkflowDraft.row, draft, text_of_isEncodable hid,
    text_of_isEncodable hname, text_of_isEncodable hdescription]
  rfl

end WorkflowSave

namespace TemplateSave

def draft (save : TemplateSave) : TemplateDraft where
  id := .string save.id
  subject := .string save.subject
  content := .string save.content
  name := .string save.name

def row (save : TemplateSave) : TemplateRow where
  id := save.id
  name := save.name
  subject := save.subject
  content := save.content

theorem saveTemplate_draft (save : TemplateSave) (catalogue : Catalogue) (fresh : String) :
    catalogue.saveTemplate fresh save.draft = .ok (catalogue.putTemplate save.row) := by
  have hid := save.encodable save.id (by simp)
  have hsubject := save.encodable save.subject (by simp)
  have hcontent := save.encodable save.content (by simp)
  have hname := save.encodable save.name (by simp)
  simp only [Catalogue.saveTemplate, Catalogue.TemplateDraft.row, draft, text_of_isEncodable hid,
    text_of_isEncodable hname, text_of_isEncodable hsubject, text_of_isEncodable hcontent]
  rfl

end TemplateSave

/-- The save itself where it is of a workflow under the id. -/
def Save.workflowUnder? (id : String) : Save → Option WorkflowSave
  | .workflow save => if save.id = id then some save else none
  | .template _ => none

def Save.templateUnder? (id : String) : Save → Option TemplateSave
  | .workflow _ => none
  | .template save => if save.id = id then some save else none

/-- What a history saves under an id, in order. -/
def workflowsUnder (id : String) (saves : List Save) : List WorkflowSave :=
  saves.filterMap (Save.workflowUnder? id)

def templatesUnder (id : String) (saves : List Save) : List TemplateSave :=
  saves.filterMap (Save.templateUnder? id)

theorem workflowsUnder_concat (id : String) (saves : List Save) (save : Save) :
    workflowsUnder id (saves ++ [save])
      = workflowsUnder id saves ++ (save.workflowUnder? id).toList := by
  rw [workflowsUnder, List.filterMap_append]
  cases h : save.workflowUnder? id <;> simp [h, workflowsUnder]

theorem templatesUnder_concat (id : String) (saves : List Save) (save : Save) :
    templatesUnder id (saves ++ [save])
      = templatesUnder id saves ++ (save.templateUnder? id).toList := by
  rw [templatesUnder, List.filterMap_append]
  cases h : save.templateUnder? id <;> simp [h, templatesUnder]

theorem id_of_mem_workflowsUnder {id : String} {saves : List Save} {save : WorkflowSave}
    (h : save ∈ workflowsUnder id saves) : save.id = id := by
  obtain ⟨_ | _, -, hsave⟩ := List.mem_filterMap.mp h
  · simp only [Save.workflowUnder?, Option.ite_none_right_eq_some, Option.some.injEq] at hsave
    exact hsave.2 ▸ hsave.1
  · cases hsave

theorem id_of_mem_templatesUnder {id : String} {saves : List Save} {save : TemplateSave}
    (h : save ∈ templatesUnder id saves) : save.id = id := by
  obtain ⟨_ | _, -, hsave⟩ := List.mem_filterMap.mp h
  · cases hsave
  · simp only [Save.templateUnder?, Option.ite_none_right_eq_some, Option.some.injEq] at hsave
    exact hsave.2 ▸ hsave.1

variable (fresh : Catalogue → String)

def Save.apply (catalogue : Catalogue) : Save → Except ColumnFault Catalogue
  | .workflow save => catalogue.saveWorkflow (fresh catalogue) save.draft
  | .template save => catalogue.saveTemplate (fresh catalogue) save.draft

/-- The catalogue after a history of saves, from one that holds nothing. -/
def saveAll (saves : List Save) : Except ColumnFault Catalogue :=
  saves.foldlM (Save.apply fresh) .empty

/-- The rows are those of the latest save under each id. -/
structure Catalogue.Holds (catalogue : Catalogue) (saves : List Save) : Prop where
  workflows : ∀ id, Entries.get? catalogue.workflows id
    = (workflowsUnder id saves).getLast?.map WorkflowSave.row
  templates : ∀ id, Entries.get? catalogue.templates id
    = (templatesUnder id saves).getLast?.map TemplateSave.row

/-- A row that is put into a table becomes the latest under its id and leaves the others. -/
theorem get?_put_row {α ρ : Type} {rows : Entries ρ} {row : α → ρ} {saved : List α} {id : String}
    (h : Entries.get? rows id = saved.getLast?.map row) (key : String) (save : α) :
    Entries.get? (Entries.put rows key (row save)) id
      = (saved ++ (if key = id then some save else none).toList).getLast?.map row := by
  by_cases hkey : key = id
  · subst hkey
    simp [Entries.get?_put_self]
  · rw [Entries.get?_put_of_ne _ _ hkey, h]
    simp [hkey]

namespace Catalogue

/-! ### Lookups -/

section Find

variable {α : Type} {id : String}

theorem find_of_isEncodable (h : Text.isEncodable id = true)
    (lookup : String → Except Failure (Option α)) : find lookup (.string id) = lookup id := by
  simp [find, optionalText, encoded_of_isEncodable h, Except.map]

theorem find_of_not_isEncodable (h : Text.isEncodable id = false)
    (lookup : String → Except Failure (Option α)) :
    ∃ complaint, find lookup (.string id) = .error (.other "UnicodeEncodeError" complaint) := by
  obtain ⟨complaint, hencoded⟩ := exists_encoded_of_not_isEncodable h
  exact ⟨complaint, by simp [find, optionalText, hencoded, Except.map, ColumnFault.toFailure]⟩

end Find

/-- What is found under an id is what was saved last. -/
structure GivesLatest (catalogue : Catalogue) (saves : List Save) (id : String) : Prop where
  absent : find catalogue.workflow? (.string id) = .ok none ↔ workflowsUnder id saves = [] ∨
    ∃ save, (workflowsUnder id saves).getLast? = some save ∧ save.isActive = false
  active : ∀ save, (workflowsUnder id saves).getLast? = some save → save.isActive = true →
    find catalogue.workflow? (.string id) = (Definition.parse (.object [("id", .string id),
      ("name", .string save.name), ("steps", .list save.steps)])).map some
  template : find (.ok ∘ catalogue.template?) (.string id)
    = .ok ((templatesUnder id saves).getLast?.map fun save =>
      { id := id, subject := save.subject, content := save.content })

/-! ### Rows -/

@[simp] theorem templates_putWorkflow (catalogue : Catalogue) (row : WorkflowRow) :
    (catalogue.putWorkflow row).templates = catalogue.templates := rfl

@[simp] theorem workflows_putTemplate (catalogue : Catalogue) (row : TemplateRow) :
    (catalogue.putTemplate row).workflows = catalogue.workflows := rfl

namespace Holds

variable {catalogue : Catalogue} {saves : List Save}

theorem putWorkflow (h : catalogue.Holds saves) (save : WorkflowSave) :
    (catalogue.putWorkflow save.row).Holds (saves ++ [.workflow save]) where
  workflows id := by
    rw [workflowsUnder_concat]
    exact get?_put_row (h.workflows id) save.id save
  templates id := by
    rw [templatesUnder_concat]
    simpa [Save.templateUnder?] using h.templates id

theorem putTemplate (h : catalogue.Holds saves) (save : TemplateSave) :
    (catalogue.putTemplate save.row).Holds (saves ++ [.template save]) where
  workflows id := by
    rw [workflowsUnder_concat]
    simpa [Save.workflowUnder?] using h.workflows id
  templates id := by
    rw [templatesUnder_concat]
    exact get?_put_row (h.templates id) save.id save

theorem apply (h : catalogue.Holds saves) (save : Save) :
    ∃ next, save.apply fresh catalogue = .ok next ∧ next.Holds (saves ++ [save]) := by
  cases save with
  | workflow save => exact ⟨_, save.saveWorkflow_draft _ _, h.putWorkflow save⟩
  | template save => exact ⟨_, save.saveTemplate_draft _ _, h.putTemplate save⟩

theorem workflow?_eq (h : catalogue.Holds saves) (id : String) :
    catalogue.workflow? id = match (workflowsUnder id saves).getLast? with
      | some save => if save.isActive then (Definition.parse save.definition).map some else .ok none
      | none => .ok none := by
  rw [Catalogue.workflow?, h.workflows id]
  cases (workflowsUnder id saves).getLast? with
  | none => rfl
  | some save =>
    have hrow : save.row.isActive = save.isActive := rfl
    cases hactive : save.isActive <;> simp [Option.filter, hrow, hactive, save.draft_row]

theorem workflow?_eq_none_iff (h : catalogue.Holds saves) (id : String) :
    catalogue.workflow? id = .ok none ↔ workflowsUnder id saves = [] ∨
      ∃ save, (workflowsUnder id saves).getLast? = some save ∧ save.isActive = false := by
  rw [h.workflow?_eq id]
  cases hlast : (workflowsUnder id saves).getLast? with
  | none => simp [List.getLast?_eq_none_iff.mp hlast]
  | some save =>
    have hsome : workflowsUnder id saves ≠ [] := List.ne_nil_of_mem (List.mem_of_getLast? hlast)
    cases hactive : save.isActive with
    | false => simp [hactive]
    | true =>
      have hread : (Definition.parse save.definition).map some ≠ .ok none := by
        cases Definition.parse save.definition <;> simp [Except.map]
      simp [hactive, hsome, hread]

theorem workflow?_of_active (h : catalogue.Holds saves) {id : String} {save : WorkflowSave}
    (hlast : (workflowsUnder id saves).getLast? = some save) (hactive : save.isActive = true) :
    catalogue.workflow? id = (Definition.parse (.object [("id", .string id),
      ("name", .string save.name), ("steps", .list save.steps)])).map some := by
  have hid := id_of_mem_workflowsUnder (List.mem_of_getLast? hlast)
  subst hid
  rw [h.workflow?_eq, hlast]
  simp only [hactive, if_true, WorkflowSave.definition]

theorem template?_eq (h : catalogue.Holds saves) (id : String) :
    catalogue.template? id = (templatesUnder id saves).getLast?.map fun save =>
      { id := id, subject := save.subject, content := save.content } := by
  rw [Catalogue.template?, h.templates id]
  cases hlast : (templatesUnder id saves).getLast? with
  | none => rfl
  | some save =>
    have hid := id_of_mem_templatesUnder (List.mem_of_getLast? hlast)
    simp [TemplateSave.row, hid]

theorem givesLatest_iff (h : catalogue.Holds saves) (id : String) :
    catalogue.GivesLatest saves id ↔ Text.isEncodable id = true := by
  constructor
  · intro hgives
    by_contra hnot
    obtain ⟨complaint, hfails⟩ :=
      find_of_not_isEncodable (Bool.not_eq_true _ ▸ hnot) (.ok ∘ catalogue.template?)
    rw [hgives.template] at hfails
    cases hfails
  · intro hid
    refine ⟨?_, fun save hlast hactive => ?_, ?_⟩
    · rw [find_of_isEncodable hid]
      exact h.workflow?_eq_none_iff id
    · rw [find_of_isEncodable hid]
      exact h.workflow?_of_active hlast hactive
    · rw [find_of_isEncodable hid]
      exact congrArg Except.ok (h.template?_eq id)

end Holds

end Catalogue

/-- A save never fails, and after it the catalogue holds it too. -/
theorem exists_saveAll (saves : List Save) :
    ∃ catalogue, saveAll fresh saves = .ok catalogue ∧ catalogue.Holds saves := by
  -- From the end of the history, since the rows are those of the latest saves.
  induction saves using List.reverseRecOn with
  | nil => exact ⟨.empty, rfl, fun _ => rfl, fun _ => rfl⟩
  | append_singleton saves save ih =>
    obtain ⟨catalogue, hsaved, hholds⟩ := ih
    obtain ⟨next, hnext, hkept⟩ := hholds.apply fresh save
    refine ⟨next, ?_, hkept⟩
    rw [saveAll, List.foldlM_append, ← saveAll, hsaved]
    exact (bind_pure _).trans hnext

/-- A workflow is found exactly where the latest save under its id is active, and reads as that save
does; a template is found as it was saved last. Nothing else in the history counts. The lookups come to
this exactly for ids that UTF-8 has a form for. -/
theorem lookups_give_latest_save (saves : List Save) :
    ∃ catalogue, saveAll fresh saves = .ok catalogue ∧
      (∀ id,
        (catalogue.workflow? id = .ok none ↔ workflowsUnder id saves = [] ∨
          ∃ save, (workflowsUnder id saves).getLast? = some save ∧ save.isActive = false) ∧
        ∀ save, (workflowsUnder id saves).getLast? = some save → save.isActive = true →
          catalogue.workflow? id = (Definition.parse (.object [("id", .string id),
            ("name", .string save.name), ("steps", .list save.steps)])).map some) ∧
      (∀ id, catalogue.template? id = (templatesUnder id saves).getLast?.map fun save =>
        { id := id, subject := save.subject, content := save.content }) ∧
      (∀ id, catalogue.GivesLatest saves id ↔ Text.isEncodable id = true) ∧
      ∀ others rest, saveAll fresh others = .ok rest → ∀ id,
        (workflowsUnder id others = workflowsUnder id saves →
          rest.workflow? id = catalogue.workflow? id) ∧
        (templatesUnder id others = templatesUnder id saves →
          rest.template? id = catalogue.template? id) := by
  obtain ⟨catalogue, hsaved, hholds⟩ := exists_saveAll fresh saves
  refine ⟨catalogue, hsaved, fun id => ⟨hholds.workflow?_eq_none_iff id, fun save hlast hactive =>
    hholds.workflow?_of_active hlast hactive⟩, hholds.template?_eq, hholds.givesLatest_iff,
    fun others rest hothers id => ?_⟩
  obtain ⟨after, hafter, hrest⟩ := exists_saveAll fresh others
  obtain rfl : rest = after := Except.ok.inj (hothers.symm.trans hafter)
  constructor
  · intro hsame
    rw [hrest.workflow?_eq, hholds.workflow?_eq, hsame]
  · intro hsame
    rw [hrest.template?_eq, hholds.template?_eq, hsame]

end Store

namespace Sample

/-- A workflow that is saved, switched off and saved again, with a template under the same id. -/
def revival : List Store.Save :=
  let checks : Store.WorkflowSave := {
    id := "tidy", name := "Check", description := "", isActive := true,
    steps := [.object [("id", .string "c"), ("type", .string "condition"), ("config", .object [])]],
    encodable := by decide }
  [.workflow checks, .workflow { checks with steps := [], isActive := false },
    .template { id := "tidy", subject := "Tidied", content := "", name := "", encodable := by decide },
    .workflow checks]

theorem revival_found : ∃ catalogue, Store.saveAll (fun _ => "fresh") revival = .ok catalogue ∧
    (∃ definition, catalogue.workflow? "tidy" = .ok (some definition)) ∧
      catalogue.template? "tidy" = some { id := "tidy", subject := "Tidied", content := "" } := by
  obtain ⟨catalogue, hsaved, hworkflows, htemplates, -⟩ :=
    Store.lookups_give_latest_save (fun _ => "fresh") revival
  exact ⟨catalogue, hsaved, ⟨_, (hworkflows "tidy").2 _ rfl rfl⟩, htemplates "tidy"⟩

/-- A surrogate that stands alone was never saved under, and is not looked up. -/
theorem surrogate_not_found : ∃ catalogue, Store.saveAll (fun _ => "fresh") [] = .ok catalogue ∧
    Store.workflowsUnder (String.ofList (Text.ofCode 0xD800)) [] = [] ∧
    Store.Catalogue.find catalogue.workflow? (.string (String.ofList (Text.ofCode 0xD800)))
      = .error (.other "UnicodeEncodeError"
        "'utf-8' codec can't encode character '\\ud800' in position 0: surrogates not allowed") ∧
    ¬ ∀ id, Store.Catalogue.find catalogue.workflow? (.string id) = .ok none ↔
      Store.workflowsUnder id [] = [] ∨
        ∃ save, (Store.workflowsUnder id []).getLast? = some save ∧ save.isActive = false := by
  have hfails : Store.Catalogue.find Store.Catalogue.empty.workflow?
      (.string (String.ofList (Text.ofCode 0xD800))) = .error (.other "UnicodeEncodeError"
        "'utf-8' codec can't encode character '\\ud800' in position 0: surrogates not allowed") := by
    rfl
  refine ⟨.empty, rfl, rfl, hfails, fun hall => ?_⟩
  have hnone := (hall (String.ofList (Text.ofCode 0xD800))).mpr (.inl rfl)
  rw [hfails] at hnone
  cases hnone

end Sample

end Runbook
