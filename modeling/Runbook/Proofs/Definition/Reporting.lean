import Runbook.Proofs.Definition
import Runbook.Proofs.Schema

/-!
# What is reported of a definition

Reading a definition reports what is wrong with its id, with its name and with each of its steps, in this
order. What it reports of a step is what it would report of the step alone, moved to the place of the
step: no step hides or changes anything of another. Ids that come twice are reported when nothing else
is.
-/

namespace Runbook

open Schema Decoded

/-! ### Every rejection has a reason -/

theorem explains_aiConfig : Explains AiConfig.decode :=
  explains_model _ fun _ => explained_valid _
    |>.part (explained_required explains_text)
    |>.part (explained_optional (explains_nullable explains_text))
    |>.part (explained_optional (explains_nullable explains_text))

theorem explains_fieldMatch : Explains FieldMatch.decode :=
  explains_model _ fun _ => explained_valid _
    |>.part (explained_required explains_text)
    |>.part (explained_optional explains_anything)

theorem explains_fieldMapping : Explains FieldMapping.decode :=
  explains_model _ fun _ => explained_valid _
    |>.part (explained_required explains_text)
    |>.part (explained_required explains_text)

theorem explains_transformationConfig : Explains TransformationConfig.decode :=
  explains_model _ fun _ => explained_valid _
    |>.part (explained_required explains_text)
    |>.part (explained_optional (explains_list explains_fieldMatch))
    |>.part (explained_optional (explains_list explains_fieldMapping))
    |>.part (explained_optional (explains_nullable explains_text))
    |>.part (explained_optional (explains_nullable explains_text))
    |>.part (explained_optional explains_boolean)

/-- A value that is neither names nor a name is no name, if nothing else. -/
theorem explains_recipients : Explains Recipients.decode := by
  intro v
  unfold Recipients.decode
  split
  · exact explained_valid _
  · exact explained_valid _
  · next hname =>
    intro hempty
    obtain ⟨-, hnone⟩ := List.append_eq_nil_iff.mp (invalid.inj hempty)
    rw [issues_under, List.map_eq_nil_iff] at hnone
    obtain ⟨name, hvalid⟩ := (explains_text v).exists_valid hnone
    exact hname name hvalid

theorem explains_notificationConfig : Explains NotificationConfig.decode :=
  explains_model _ fun _ => explained_valid _
    |>.part (explained_required explains_text)
    |>.part (explained_required explains_text)
    |>.part (explained_optional explains_recipients)

theorem explains_apiCallConfig : Explains ApiCallConfig.decode :=
  explains_model _ fun _ => explained_valid _
    |>.part (explained_required explains_nonEmptyText)
    |>.part (explained_optional explains_text)
    |>.part (explained_optional (explains_entries explains_text))
    |>.part (explained_optional (explains_nullable explains_text))

theorem explains_clause : Explains Clause.decode :=
  explains_model _ fun _ => explained_valid _
    |>.part (explained_required explains_text)
    |>.part (explained_required explains_text)
    |>.part (explained_optional explains_anything)

theorem explains_conditionConfig : Explains ConditionConfig.decode :=
  explains_model _ fun _ => explained_valid _
    |>.part (explained_optional (explains_list explains_clause))
    |>.part (explained_optional explains_text)

theorem explains_stepConfig (type : StepType) : Explains (StepConfig.decode type) := by
  intro v
  cases type with
  | aiProcessing => exact (explains_aiConfig v).map _
  | dataTransformation => exact (explains_transformationConfig v).map _
  | notification => exact (explains_notificationConfig v).map _
  | apiCall => exact (explains_apiCallConfig v).map _
  | condition => exact (explains_conditionConfig v).map _

theorem explained_decodeAs (type : StepType) (fields : Value.Fields) :
    (Step.decodeAs type fields).Explained :=
  explained_valid _
    |>.part (explained_required explains_nonEmptyText)
    |>.part (explained_optional (explains_nullable explains_text))
    |>.part (explained_optional (explains_list explains_text))
    |>.part (explained_optional (explains_nullable explains_positiveNumber))
    |>.part (explained_required (explains_stepConfig type))

theorem explains_step : Explains Step.decode := by
  intro v
  unfold Step.decode
  split
  · split
    · exact explained_fail _
    · split
      · exact (explained_decodeAs _ _).under _
      · exact explained_fail _
  · exact explained_fail _

theorem explains_decodeFields : Explains Definition.decodeFields :=
  explains_model _ fun _ => explained_valid _
    |>.part (explained_required explains_nonEmptyText)
    |>.part (explained_optional (explains_nullable explains_text))
    |>.part (explained_optional (explains_list explains_step))

/-! ### Ids of accepted steps -/

theorem eq_valid_of_reading {α : Type} {s : String} {read : Decoded α} {a : α}
    (h : reading s read = .valid a) : read = .valid a := by
  unfold reading at h
  split at h
  · exact h
  · cases h

theorem get?_of_requiredId {fields : Value.Fields} {id : String}
    (h : required fields ["id"] nonEmptyText = .valid id) :
    Entries.get? fields "id" = some (.string id) := by
  cases hget : Entries.get? fields "id" with
  | none => simp [required, findNamed, hget] at h
  | some v =>
    have htext : nonEmptyText v = .valid id := by
      simpa [required, findNamed, hget] using h
    cases v with
    | string s =>
      have hread := eq_valid_of_reading htext
      split at hread
      · cases hread
      · rw [Decoded.valid.inj hread]
    | _ => cases htext

theorem Step.requiredId_of_decodeAs {type : StepType} {fields : Value.Fields} {step : Step}
    (h : Step.decodeAs type fields = .valid step) :
    required fields ["id"] nonEmptyText = .valid step.id := by
  simp only [Step.decodeAs, part_eq_valid_iff] at h
  obtain ⟨_, config, ⟨_, timeout, ⟨_, dependencies, ⟨_, name, ⟨_, id, hmk, hid, rfl⟩, -, rfl⟩, -, rfl⟩,
    -, rfl⟩, -, rfl⟩ := h
  obtain rfl := Decoded.valid.inj hmk
  exact hid

/-- An accepted step has the id that stands in its object. -/
theorem Step.field?_id_of_decode {raw : Value} {step : Step} (h : Step.decode raw = .valid step) :
    raw.field? "id" = some (.string step.id) := by
  unfold Step.decode at h
  split at h
  · split at h
    · cases h
    · split at h
      · exact get?_of_requiredId (Step.requiredId_of_decodeAs (under_eq_valid_iff.mp h))
      · cases h
  · cases h

namespace Definition

/-! ### The parts of a report -/

/-- What reading a definition reports. -/
def reported (v : Value) : List Issue :=
  (Definition.decode v).issues

def idIssues (fields : Value.Fields) : List Issue :=
  (required fields ["id"] nonEmptyText).issues

def nameIssues (fields : Value.Fields) : List Issue :=
  (optional fields ["name"] none (nullable text)).issues

/-- A definition of one step, of which nothing else is wrong. -/
def lone (raw : Value) : Value.Fields :=
  [("id", .string "lone"), ("steps", .list [raw])]

/-- An issue of the first step as an issue of the step in another position. -/
def atStep (position : Nat) (issue : Issue) : Issue :=
  match issue.path with
  | steps :: _ :: path => { issue with path := steps :: toString position :: path }
  | _ => issue

/-- What is reported of a step that stands alone, moved to a position. -/
def stepIssues (position : Nat) (raw : Value) : List Issue :=
  (reported (.object (lone raw))).map (atStep position)

/-- What is wrong with the id, with the name and with each of the steps. -/
def collected (fields : Value.Fields) (raws : List Value) : List Issue :=
  idIssues fields ++ nameIssues fields
    ++ raws.zipIdx.flatMap fun entry => stepIssues entry.2 entry.1

variable {fields : Value.Fields} {raws : List Value} {raw : Value}

theorem issues_decodeFields (hsteps : Entries.get? fields "steps" = some (.list raws)) :
    (decodeFields (.object fields)).issues
      = idIssues fields ++ nameIssues fields ++ raws.zipIdx.flatMap fun entry =>
          (Step.decode entry.1).issues.map (Issue.within ["steps", toString entry.2]) := by
  have hlist : (Schema.optional fields ["steps"] [] (list Step.decode)).issues
      = raws.zipIdx.flatMap fun entry =>
          (Step.decode entry.1).issues.map (Issue.within ["steps", toString entry.2]) := by
    simp only [Schema.optional, findNamed, hsteps, issues_under, list, issues_itemsFrom,
      List.map_flatMap, List.map_map]
    rfl
  rw [← hlist]
  simp [decodeFields, model, idIssues, nameIssues]

theorem decode_of_issues_ne_nil {v : Value} (h : (decodeFields v).issues ≠ []) :
    decode v = .invalid (decodeFields v).issues :=
  andThen_eq_of_issues h checkIds

/-- A definition of which nothing is wrong but perhaps the ids of its steps is made of these. -/
theorem exists_decodeFields (hsteps : Entries.get? fields "steps" = some (.list raws))
    (hissues : (decodeFields (.object fields)).issues = []) :
    ∃ definition : Definition, decodeFields (.object fields) = .valid definition ∧
      raws.map (·.field? "id") = definition.steps.map fun step => some (.string step.id) := by
  obtain ⟨definition, hvalid⟩ := (explains_decodeFields _).exists_valid hissues
  refine ⟨definition, hvalid, ?_⟩
  simp only [decodeFields, model, part_eq_valid_iff] at hvalid
  obtain ⟨_, steps, ⟨_, name, ⟨_, id, hmk, -, rfl⟩, -, rfl⟩, hdecoded, rfl⟩ := hvalid
  obtain rfl := Decoded.valid.inj hmk
  have hitems : itemsFrom Step.decode 0 raws = .valid steps := by
    simpa [Schema.optional, findNamed, hsteps, list] using hdecoded
  have hids : List.Forall₂ (· = ·) (raws.map (·.field? "id"))
      (steps.map fun step => some (.string step.id)) := by
    rw [List.forall₂_map_left_iff, List.forall₂_map_right_iff]
    exact (forall₂_of_itemsFrom hitems).imp fun _ _ => Step.field?_id_of_decode
  rwa [List.forall₂_eq_eq_eq] at hids

/-! ### One step -/

theorem decode_of_decodeFields {v : Value} {definition : Definition}
    (h : decodeFields v = .valid definition) : decode v = definition.checkIds := by
  rw [decode, h]
  rfl

/-- A single step repeats no id, so what is wrong with it is all that is reported. -/
theorem reported_of_single_step (hid : idIssues fields = []) (hname : nameIssues fields = [])
    (hsteps : Entries.get? fields "steps" = some (.list [raw])) :
    reported (.object fields) = (Step.decode raw).issues.map (Issue.within ["steps", "0"]) := by
  have hissues : (decodeFields (.object fields)).issues
      = (Step.decode raw).issues.map (Issue.within ["steps", "0"]) := by
    rw [issues_decodeFields hsteps, hid, hname]
    simp only [List.zipIdx_cons, List.zipIdx_nil, List.flatMap_singleton, List.nil_append]
    rfl
  by_cases hnone : (decodeFields (.object fields)).issues = []
  · obtain ⟨definition, hvalid, hids⟩ := exists_decodeFields hsteps hnone
    obtain ⟨step, hstep⟩ : ∃ step, definition.steps = [step] := by
      rw [← List.length_eq_one_iff]
      simpa using (congrArg List.length hids).symm
    rw [reported, decode_of_decodeFields hvalid, ← hissues, hnone]
    simp [checkIds, hstep, firstRepeated?]
  · rw [reported, decode_of_issues_ne_nil hnone, issues_invalid, hissues]

theorem reported_lone (raw : Value) :
    reported (.object (lone raw)) = (Step.decode raw).issues.map (Issue.within ["steps", "0"]) :=
  reported_of_single_step rfl rfl rfl

theorem stepIssues_eq (position : Nat) (raw : Value) :
    stepIssues position raw
      = (Step.decode raw).issues.map (Issue.within ["steps", toString position]) := by
  rw [stepIssues, reported_lone, List.map_map]
  rfl

theorem issues_decodeFields_eq_collected
    (hsteps : Entries.get? fields "steps" = some (.list raws)) :
    (decodeFields (.object fields)).issues = collected fields raws := by
  rw [issues_decodeFields hsteps, collected]
  simp only [stepIssues_eq]

/-! ### The whole report -/

theorem parse_of_decode_invalid {v : Value} {issues : List Issue} (h : decode v = .invalid issues) :
    parse v = .error (.invalidDefinition
      ("Invalid workflow definition: " ++ "; ".intercalate (issues.map Issue.text))) := by
  rw [parse, h]
  rfl

/-- **The report on a definition is complete and put together from its parts.** It has what is wrong with
the id, with the name and with each step in its position, which is what would be reported of that step in
any definition of it alone; and the parser fails with the words of all of it. When none of this is wrong,
the definition is accepted exactly if no id repeats an earlier one, and the first that does is all that is
reported otherwise. -/
theorem report_complete {fields : Value.Fields} {raws : List Value}
    (hsteps : Entries.get? fields "steps" = some (.list raws)) :
    (∀ issue ∈ idIssues fields, issue.path = ["id"]) ∧
      (∀ issue ∈ nameIssues fields, issue.path = ["name"]) ∧
      (∀ raw position, (∀ issue ∈ stepIssues position raw,
          ["steps", toString position] <+: issue.path) ∧
        ∀ other, idIssues other = [] → nameIssues other = [] →
          Entries.get? other "steps" = some (.list [raw]) →
            stepIssues position raw = (reported (.object other)).map (atStep position)) ∧
      (collected fields raws ≠ [] →
        reported (.object fields) = collected fields raws ∧
          parse (.object fields) = .error (.invalidDefinition ("Invalid workflow definition: "
            ++ "; ".intercalate ((collected fields raws).map Issue.text)))) ∧
      (collected fields raws = [] →
        ∃ ids : List String, raws.map (·.field? "id") = ids.map (fun id => some (.string id)) ∧
          ((∃ definition, parse (.object fields) = .ok definition) ↔ ids.Nodup) ∧
          (¬ ids.Nodup → ∃ before id after, ids = before ++ id :: after ∧ before.Nodup ∧
            id ∈ before ∧ reported (.object fields) = [⟨[], .duplicateStep id⟩] ∧
            parse (.object fields) = .error (.invalidDefinition
              ("Invalid workflow definition: Value error, Duplicate step id: " ++ id)))) := by
  refine ⟨fun issue => flat_nonEmptyText.path_of_required,
    fun issue => flat_text.nullable.path_of_optional, ?_, ?_, ?_⟩
  · intro raw position
    constructor
    · intro issue hissue
      rw [stepIssues_eq, List.mem_map] at hissue
      obtain ⟨inner, -, rfl⟩ := hissue
      exact List.prefix_append _ _
    · intro other hid hname hother
      rw [stepIssues, reported_of_single_step hid hname hother, reported_lone]
  · intro hsome
    rw [← issues_decodeFields_eq_collected hsteps] at hsome ⊢
    have hdecode := decode_of_issues_ne_nil hsome
    exact ⟨by rw [reported, hdecode, issues_invalid], parse_of_decode_invalid hdecode⟩
  · intro hnone
    rw [← issues_decodeFields_eq_collected hsteps] at hnone
    obtain ⟨definition, hvalid, hids⟩ := exists_decodeFields hsteps hnone
    have hdecode := decode_of_decodeFields hvalid
    refine ⟨definition.steps.map (·.id), by rwa [List.map_map], ?_⟩
    cases hrepeated : firstRepeated? [] (definition.steps.map (·.id)) with
    | none =>
      have hdistinct := (firstRepeated?_eq_none hrepeated).1
      refine ⟨iff_of_true ⟨definition, ?_⟩ hdistinct, fun hnot => absurd hdistinct hnot⟩
      rw [parse, hdecode, checkIds, hrepeated]
    | some id =>
      -- The id stands once more before the place where it is found, which is why nothing is accepted.
      obtain ⟨before, after, hsplit, hid, hbefore, -⟩ := firstRepeated?_eq_some hrepeated
      have hmem : id ∈ before := by simpa using hid
      have hnot : ¬ (definition.steps.map (·.id)).Nodup := by
        rw [hsplit]
        intro hdistinct
        exact (List.nodup_append.mp hdistinct).2.2 id hmem id List.mem_cons_self rfl
      have hfails : decode (.object fields) = .invalid [⟨[], .duplicateStep id⟩] := by
        rw [hdecode, checkIds, hrepeated]
        rfl
      have hparse := parse_of_decode_invalid hfails
      refine ⟨iff_of_false ?_ hnot, fun _ => ⟨before, id, after, hsplit, hbefore, hmem, ?_, ?_⟩⟩
      · rintro ⟨accepted, haccepted⟩
        rw [hparse] at haccepted
        cases haccepted
      · rw [reported, hfails, issues_invalid]
      · rw [hparse]
        rfl

end Definition

namespace Sample

/-- A step that is fine, one of an unknown type and one without a prompt. -/
def mixedSteps : List Value :=
  [(check "first" []).toValue, .object [("id", .string "second"), ("type", .string "teleport")],
    .object [("id", .string "third"), ("type", .string "ai_processing"), ("config", .object [])]]

/-- A definition of these steps, without an id. -/
def mixed : Value.Fields := [("steps", .list mixedSteps)]

theorem mixed_reported : Entries.get? mixed "steps" = some (.list mixedSteps) ∧
    Definition.reported (.object mixed) = Definition.collected mixed mixedSteps ∧
      Definition.collected mixed mixedSteps ≠ [] := by
  have hsteps : Entries.get? mixed "steps" = some (.list mixedSteps) := by rfl
  have hsome : Definition.collected mixed mixedSteps ≠ [] := by
    have hid : Definition.idIssues mixed = [⟨["id"], .missing⟩] := by rfl
    simp [Definition.collected, hid]
  obtain ⟨-, -, -, hreported, -⟩ := Definition.report_complete hsteps
  exact ⟨hsteps, (hreported hsome).1, hsome⟩

end Sample

end Runbook
