import Runbook.Proofs.Executor.Standard
import Runbook.Proofs.Template

/-!
# What a step discloses

A step other than a transformation reads the fields that it names and no others: those of the placeholders
in its templates, those of its clauses, and the user for a completion. On data that agree on these fields
its run is one and the same, with the same calls, the same result and the same log.
-/

namespace Runbook

variable {σ : Type} {data other : Data}

/-! ### Clauses -/

section Clauses

variable (hfinite : data.isCircular = false)
include hfinite

theorem Clause.holds_congr {clause : Clause}
    (h : Entries.get? data clause.field = Entries.get? other clause.field) :
    clause.holds data = clause.holds other := by
  unfold Clause.holds
  rw [← h]
  cases hdatum : Entries.get? data clause.field with
  | none => rfl
  | some d =>
    cases d with
    | value v => rfl
    | whole => exact absurd hdatum (Data.get?_ne_whole hfinite _)

theorem Clause.holdAll_congr {clauses : List Clause}
    (h : ∀ clause ∈ clauses, Entries.get? data clause.field = Entries.get? other clause.field) :
    Clause.holdAll data clauses = Clause.holdAll other clauses := by
  induction clauses with
  | nil => rfl
  | cons clause rest ih =>
    obtain ⟨hclause, hrest⟩ := List.forall_mem_cons.mp h
    rw [holdAll, holdAll, holds_congr hfinite hclause, ih hrest]

end Clauses

namespace Executor

variable {collaborators : Collaborators σ} {step : Step}

/-! ### What steps name -/

/-- The fields with placeholders in the notification template that is found in a world. -/
def Notify.named (template : Option (Service σ String (Option NotificationTemplate))) (world : σ)
    (config : NotificationConfig) : List String :=
  match template with
  | none => []
  | some lookup => match (lookup config.template world).1 with
    | .answered (some found) => Template.fields found.subject ++ Template.fields found.content
    | _ => []

def ApiCall.named (config : ApiCallConfig) : List String :=
  config.headers.flatMap (fun entry => Template.fields entry.2)
    ++ config.bodyTemplate.toList.flatMap Template.fields

/-- The fields of the runtime data that a step names; a transformation, which may take the data as a
whole, is left aside. -/
def named (collaborators : Collaborators σ) (world : σ) (step : Step) : List String :=
  match step.config with
  | .aiProcessing config => Data.userField :: Template.fields config.prompt
  | .dataTransformation _ => []
  | .notification config => Notify.named collaborators.template world config
  | .apiCall config => ApiCall.named config
  | .condition config => config.conditions.map (·.field)

/-! ### The step types -/

section Execute

variable (hfinite : data.isCircular = false) (timeout : Option Number) (stage : Stage σ)
include hfinite

theorem AiProcessing.execute_congr (completion : Option (Service σ CompletionCall Value))
    {config : AiConfig}
    (h : ∀ field ∈ Data.userField :: Template.fields config.prompt,
      Entries.get? data field = Entries.get? other field) :
    (execute completion config data timeout : Interaction σ Outcome)
      = execute completion config other timeout := by
  obtain ⟨huser, hprompt⟩ := List.forall_mem_cons.mp h
  have hcall : ∀ prompt, call config prompt data timeout = call config prompt other timeout := by
    intro prompt
    rw [call, call, huser]
  unfold execute
  rw [Template.resolve_congr hfinite hprompt]
  simp only [hcall]

theorem Condition.execute_congr {config : ConditionConfig}
    (h : ∀ field ∈ config.conditions.map (·.field),
      Entries.get? data field = Entries.get? other field) :
    (execute config data : Interaction σ Outcome) = execute config other := by
  have hclauses : Clause.holdAll data config.conditions = Clause.holdAll other config.conditions :=
    Clause.holdAll_congr hfinite (List.forall_mem_map.mp h)
  rw [execute, execute, ConditionConfig.evaluate, ConditionConfig.evaluate, hclauses]

theorem Notify.deliver_congr (notifier : Service σ Notification Acknowledgement)
    (config : NotificationConfig) {template : NotificationTemplate}
    (h : ∀ field ∈ Template.fields template.subject ++ Template.fields template.content,
      Entries.get? data field = Entries.get? other field) :
    deliver notifier config template data = deliver notifier config template other := by
  obtain ⟨hsubject, hcontent⟩ := List.forall_mem_append.mp h
  rw [deliver, deliver, Template.resolve_congr hfinite hsubject,
    Template.resolve_congr hfinite hcontent]

/-- Which fields a notification reads is known when its template has been looked up. -/
theorem Notify.execute_congr
    {template : Option (Service σ String (Option NotificationTemplate))}
    (notifier : Option (Service σ Notification Acknowledgement)) {config : NotificationConfig}
    (h : ∀ field ∈ named template stage.world config,
      Entries.get? data field = Entries.get? other field) :
    execute template notifier config data stage = execute template notifier config other stage := by
  cases template with
  | none => rfl
  | some lookup =>
    cases notifier with
    | none => rfl
    | some notifier =>
      have hconsult : (Interaction.consult lookup config.template stage).1
          = (lookup config.template stage.world).1 := rfl
      simp only [execute, Dialogue.bind_apply]
      -- The template is looked up before any data are read.
      cases hreply : Interaction.consult lookup config.template stage with
      | mk reply after =>
        rw [hreply] at hconsult
        cases reply with
        | answered found =>
          cases found with
          | none => rfl
          | some found =>
            simp only [named, ← hconsult] at h
            dsimp only
            split
            · rw [deliver_congr hfinite notifier config h]
            · rfl
        | raised failure => rfl
        | hung => rfl

theorem ApiCall.headers_congr {entries : Entries String}
    (h : ∀ entry ∈ entries, ∀ field ∈ Template.fields entry.2,
      Entries.get? data field = Entries.get? other field) :
    headers data entries = headers other entries := by
  induction entries with
  | nil => rfl
  | cons entry rest ih =>
    obtain ⟨hentry, hrest⟩ := List.forall_mem_cons.mp h
    rw [headers, headers, Template.resolve_congr hfinite hentry, ih hrest]

theorem ApiCall.body_congr {config : ApiCallConfig}
    (h : ∀ template ∈ config.bodyTemplate, ∀ field ∈ Template.fields template,
      Entries.get? data field = Entries.get? other field) :
    body config data = body config other := by
  unfold body
  split
  · next template htemplate => rw [Template.resolve_congr hfinite (h template htemplate)]
  · rfl

theorem ApiCall.execute_congr (http : Option (Service σ HttpCall HttpAnswer))
    {config : ApiCallConfig}
    (h : ∀ field ∈ named config, Entries.get? data field = Entries.get? other field) :
    (execute http config data timeout : Interaction σ Outcome)
      = execute http config other timeout := by
  obtain ⟨hheaders, hbody⟩ := List.forall_mem_append.mp h
  have hheaders' : headers data config.headers = headers other config.headers :=
    headers_congr hfinite fun entry hentry field hfield =>
      hheaders field (List.mem_flatMap.mpr ⟨entry, hentry, hfield⟩)
  have hbody' : body config data = body config other :=
    body_congr hfinite fun template htemplate field hfield =>
      hbody field (List.mem_flatMap.mpr ⟨template, Option.mem_toList.mpr htemplate, hfield⟩)
  unfold execute
  rw [hheaders', hbody']

/-- What is executed is the same on data that agree on the fields named. -/
theorem execute_congr (hother : ∀ config, step.config ≠ .dataTransformation config)
    (hagree : ∀ field ∈ named collaborators stage.world step,
      Entries.get? data field = Entries.get? other field) :
    execute collaborators step data timeout stage
      = execute collaborators step other timeout stage := by
  unfold named at hagree
  unfold execute
  cases hconfig : step.config with
  | aiProcessing config =>
    rw [hconfig] at hagree
    exact congrFun (AiProcessing.execute_congr hfinite timeout collaborators.completion hagree) stage
  | dataTransformation config => exact absurd hconfig (hother config)
  | notification config =>
    rw [hconfig] at hagree
    exact Notify.execute_congr hfinite stage collaborators.notifier hagree
  | apiCall config =>
    rw [hconfig] at hagree
    exact congrFun (ApiCall.execute_congr hfinite timeout collaborators.http hagree) stage
  | condition config =>
    rw [hconfig] at hagree
    exact congrFun (Condition.execute_congr hfinite hagree) stage

end Execute

/-! ### Runs -/

/-- What is made of a deadline depends on the computation only where that is started. -/
theorem underDeadline_congr (step : Step) (deadline : Option Number)
    {x y : Interaction σ Outcome} {stage : Stage σ} (h : x stage = y stage) :
    underDeadline step deadline x stage = underDeadline step deadline y stage := by
  unfold underDeadline
  rw [h]

/-- **A step discloses only what it names.** Whatever the services do, a standard executor runs a step
other than a transformation in one and the same way on data that do not contain themselves and agree on
the fields that the step names: the same calls with the same arguments, the same reply, the same world
and the same log. -/
theorem run_eq_of_agree_on_named (hother : ∀ config, step.config ≠ .dataTransformation config)
    (hfinite : data.isCircular = false) {stage : Stage σ}
    (hagree : ∀ field ∈ named collaborators stage.world step,
      Entries.get? data field = Entries.get? other field)
    (type : StepType) (clock : σ → Instant) (deadlines : Deadlines) :
    (standard collaborators type).run clock deadlines step data stage
      = (standard collaborators type).run clock deadlines step other stage := by
  have hprocedure := procedure_standard collaborators type
  have hexecute := execute_congr hfinite (deadlines.effective step)
    (announced step (deadlines.effective step) stage) hother hagree
  rw [run_of_guarded hprocedure, run_of_guarded hprocedure, underDeadline_congr step _ hexecute]

end Executor

namespace Sample

/-- Reports a count on behalf of a user. -/
def report : Step where
  id := "report"
  name := none
  dependencies := []
  timeout := none
  config := .apiCall
    { url := "/report"
      method := "POST"
      headers := [("X-User", "\x7buserId\x7d")]
      bodyTemplate := some "count: \x7bcount\x7d" }

/-- A service that takes every report. -/
def reporting : Collaborators Unit where
  template := none
  completion := none
  notifier := none
  http := some fun _ => pure { status := 200, body := .null, headers := [] }

def guestList : Data :=
  [("count", .value (.number (.int 2))), ("userId", .value (.string "ada")),
    ("guests", .value (.string "bob, eve"))]

def otherGuests : Data :=
  [("userId", .value (.string "ada")), ("guests", .value .null),
    ("count", .value (.number (.int 2))), ("host", .value (.string "ada"))]

theorem report_discloses_count :
    (∀ config, report.config ≠ .dataTransformation config) ∧ guestList.isCircular = false ∧
      otherGuests.isCircular = false ∧
      (∀ field ∈ Executor.named reporting () report,
        Entries.get? guestList field = Entries.get? otherGuests field) ∧
      Entries.get? guestList "guests" ≠ Entries.get? otherGuests "guests" ∧
      (Executor.standard reporting .apiCall).run (fun _ => { micros := 0 })
          { enforced := true, default := none } report guestList (.start ())
        = (Executor.standard reporting .apiCall).run (fun _ => { micros := 0 })
          { enforced := true, default := none } report otherGuests (.start ()) ∧
      ((Executor.standard reporting .apiCall).run (fun _ => { micros := 0 })
          { enforced := true, default := none } report guestList (.start ())).2.calls.length = 1 := by
  have hother : ∀ config, report.config ≠ .dataTransformation config := fun _ h => nomatch h
  have hfinite : guestList.isCircular = false := by rfl
  have hnamed : Executor.named reporting () report = ["userId", "count"] := by decide +kernel
  have hagree : ∀ field ∈ Executor.named reporting () report,
      Entries.get? guestList field = Entries.get? otherGuests field := by
    rw [hnamed]
    intro field hfield
    have hfields : field = "userId" ∨ field = "count" := by simpa using hfield
    rcases hfields with rfl | rfl <;> rfl
  refine ⟨hother, hfinite, by rfl, hagree, (fun h => nomatch h), ?_, by decide +kernel⟩
  exact Executor.run_eq_of_agree_on_named hother hfinite hagree .apiCall _ _

end Sample

end Runbook
