import Runbook.Proofs.Executor.Guard
import Runbook.Proofs.Interaction
import Runbook.Registry

/-!
# The executors of the five step types

What an executor makes of a step, whatever its services do: a failed outcome says why, completions are
asked for on behalf of the user in the runtime data, and only a service that hangs makes it hang.
-/

namespace Runbook

/-- Whether an outcome gives a reason in words if it is a failure. -/
def Outcome.Telling (outcome : Outcome) : Prop :=
  (∃ d, outcome = .success d) ∨ ∃ text, outcome = .failure (some text) ∧ text ≠ ""

theorem Outcome.telling_success (d : Datum) : (success d).Telling := Or.inl ⟨d, rfl⟩

theorem Outcome.telling_failure {text : String} (htext : text ≠ "") :
    (failure (some text)).Telling := Or.inr ⟨text, rfl, htext⟩

/-- Whether an outcome, if it is a success, is a value and not the runtime data by reference. -/
def Outcome.SelfContained (outcome : Outcome) : Prop :=
  (∃ v, outcome = .success (.value v)) ∨ ∃ text, outcome = .failure (some text) ∧ text ≠ ""

theorem Outcome.selfContained_success (v : Value) : (success (.value v)).SelfContained :=
  Or.inl ⟨v, rfl⟩

theorem Outcome.selfContained_failure {text : String} (htext : text ≠ "") :
    (failure (some text)).SelfContained := Or.inr ⟨text, rfl, htext⟩

theorem Outcome.SelfContained.telling {outcome : Outcome} (h : outcome.SelfContained) :
    outcome.Telling :=
  h.imp_left fun ⟨v, hv⟩ => ⟨.value v, hv⟩

/-- Whether none of the services at hand ever hangs. -/
structure Collaborators.Responsive {σ : Type} (collaborators : Collaborators σ) : Prop where
  template : ∀ service ∈ collaborators.template, ∀ id, (service id).Returns
  completion : ∀ service ∈ collaborators.completion, ∀ call, (service call).Returns
  notifier : ∀ service ∈ collaborators.notifier, ∀ message, (service message).Returns
  http : ∀ service ∈ collaborators.http, ∀ call, (service call).Returns

namespace Executor

open Dialogue Interaction

variable {σ : Type} (collaborators : Collaborators σ) (step : Step) (data : Data)
  (timeout : Option Number)

/-- The user on whose behalf a step acts on some runtime data. -/
def requester (data : Data) : Datum :=
  (Entries.get? data Data.userField).getD (.value .null)

/-- A completion is asked for on behalf of a user; other calls name none. -/
def OnBehalfOf (user : Datum) (call : Call) : Prop :=
  ∀ request, call = .completion request → request.user = user

theorem gives_failed {error : String} (herror : error ≠ "") :
    Gives Outcome.SelfContained (failed error : Interaction σ Outcome) :=
  gives_pure (Outcome.selfContained_failure herror)

/-! ### Text completion -/

namespace AiProcessing

variable {completion : Option (Service σ CompletionCall Value)} (config : AiConfig)

theorem selfContained_notDone (reason : String) : (notDone reason).SelfContained :=
  Outcome.selfContained_failure (by simp)

theorem gives_outcome (x : Interaction σ Value) :
    Gives Outcome.SelfContained (fun stage => outcome (x stage)) := by
  intro stage result hresult
  rcases hx : x stage with ⟨v | failure | _, after⟩
  · obtain rfl : Outcome.success (.value v) = result := by simpa [hx, outcome] using hresult
    exact Outcome.selfContained_success _
  · -- Two kinds of failure become outcomes; the others are raised again.
    cases failure <;> simp only [hx, outcome, Reply.answered.injEq, reduceCtorEq] at hresult
    all_goals
      rw [← hresult]
      exact selfContained_notDone _
  · simp [hx, outcome] at hresult

theorem calls_outcome (reply : Reply Value × Stage σ) : (outcome reply).2.calls = reply.2.calls := by
  rcases reply with ⟨v | failure | _, stage⟩
  · rfl
  · cases failure <;> rfl
  · rfl

theorem hung_of_outcome {reply : Reply Value × Stage σ} (h : (outcome reply).1 = .hung) :
    reply.1 = .hung := by
  rcases reply with ⟨v | failure | _, stage⟩
  · cases h
  · cases failure <;> cases h
  · rfl

theorem gives_execute : Gives Outcome.SelfContained (execute completion config data timeout) := by
  unfold execute
  split
  · exact gives_pure (selfContained_notDone _)
  · exact gives_bind fun prompt => gives_outcome _

theorem makes_execute :
    Makes (OnBehalfOf (requester data)) (execute completion config data timeout) := by
  unfold execute
  split
  · exact makes_pure _
  · next service =>
    refine (makes_ofExcept _).bind fun prompt stage => ?_
    rw [calls_outcome]
    refine makes_perform ?_ service _ stage
    intro request hrequest
    obtain rfl := Call.completion.inj hrequest
    rfl

theorem returns_execute (h : ∀ service ∈ completion, ∀ call, (service call).Returns) :
    (execute completion config data timeout).Returns := by
  unfold execute
  split
  · exact returns_pure _
  · next service =>
    refine (returns_ofExcept _).bind fun prompt stage hhung => ?_
    exact returns_perform (h service rfl) _ _ stage (hung_of_outcome hhung)

end AiProcessing

/-! ### Transformation -/

namespace DataTransformation

variable (config : TransformationConfig)

theorem gives_execute : Gives Outcome.Telling (execute config data : Interaction σ Outcome) := by
  unfold execute
  split
  · exact gives_pure (Outcome.telling_success _)
  · exact gives_raise _ _

theorem makes_execute (Q : Call → Prop) : Makes Q (execute config data : Interaction σ Outcome) := by
  unfold execute
  split
  · exact makes_pure _
  · exact makes_raise _

theorem returns_execute : (execute config data : Interaction σ Outcome).Returns := by
  unfold execute
  split
  · exact returns_pure _
  · exact returns_raise _

theorem run_of_execute_success {config : TransformationConfig} {data : Data} {d : Datum}
    {stage after : Stage σ} (h : execute config data stage = (.answered (.success d), after)) :
    config.run data = .ok d := by
  unfold execute at h
  cases hresult : config.run data with
  | ok output =>
    rw [hresult] at h
    obtain ⟨hreply, -⟩ := Prod.mk.inj h
    rw [Outcome.success.inj (Reply.answered.inj hreply)]
  | error error =>
    rw [hresult] at h
    obtain ⟨hreply, -⟩ := Prod.mk.inj h
    cases hreply

end DataTransformation

/-! ### Notification -/

namespace Notify

variable {template : Option (Service σ String (Option NotificationTemplate))}
  {notifier : Option (Service σ Notification Acknowledgement)} (config : NotificationConfig)

theorem selfContained_outcome (ack : Acknowledgement) : (outcome ack).SelfContained := by
  unfold outcome
  split
  · exact Outcome.selfContained_failure (by simp)
  · exact Outcome.selfContained_success _

theorem gives_execute : Gives Outcome.SelfContained (execute template notifier config data) := by
  unfold execute
  split
  · refine gives_bind fun found => ?_
    split
    · exact gives_failed (by decide)
    · split
      · exact gives_bind fun subject => gives_bind fun content => gives_bind fun ack =>
          gives_pure (selfContained_outcome ack)
      · exact gives_failed (by simp)
  · exact gives_failed (by decide)

theorem makes_execute (user : Datum) :
    Makes (OnBehalfOf user) (execute template notifier config data) := by
  unfold execute
  split
  · refine (makes_consult _ _).bind fun found => ?_
    split
    · exact makes_pure _
    · split
      · refine (makes_ofExcept _).bind fun subject => (makes_ofExcept _).bind fun content => ?_
        refine Makes.bind (makes_perform ?_ _ _) fun ack => makes_pure _
        intro request hrequest
        cases hrequest
      · exact makes_pure _
  · exact makes_pure _

theorem returns_execute (htemplate : ∀ service ∈ template, ∀ id, (service id).Returns)
    (hnotifier : ∀ service ∈ notifier, ∀ message, (service message).Returns) :
    (execute template notifier config data).Returns := by
  unfold execute
  split
  · next lookup service =>
    refine (returns_consult (htemplate lookup rfl) _).bind fun found => ?_
    split
    · exact returns_pure _
    · split
      · exact (returns_ofExcept _).bind fun subject => (returns_ofExcept _).bind fun content =>
          (returns_perform (hnotifier service rfl) _ _).bind fun ack => returns_pure _
      · exact returns_pure _
  · exact returns_pure _

end Notify

/-! ### API call -/

namespace ApiCall

variable {http : Option (Service σ HttpCall HttpAnswer)} (config : ApiCallConfig)

theorem selfContained_outcome (answer : HttpAnswer) : (outcome answer).SelfContained := by
  unfold outcome
  split
  · exact Outcome.selfContained_success _
  · exact Outcome.selfContained_failure (by simp [toString])

theorem gives_execute : Gives Outcome.SelfContained (execute http config data timeout) := by
  unfold execute
  split
  · exact gives_failed (by decide)
  · exact gives_bind fun body => gives_bind fun headers => gives_bind fun answer =>
      gives_pure (selfContained_outcome answer)

theorem makes_execute (user : Datum) :
    Makes (OnBehalfOf user) (execute http config data timeout) := by
  unfold execute
  split
  · exact makes_pure _
  · refine (makes_ofExcept _).bind fun body => (makes_ofExcept _).bind fun headers => ?_
    refine Makes.bind (makes_perform ?_ _ _) fun answer => makes_pure _
    intro request hrequest
    cases hrequest

theorem returns_execute (h : ∀ service ∈ http, ∀ call, (service call).Returns) :
    (execute http config data timeout).Returns := by
  unfold execute
  split
  · exact returns_pure _
  · next service =>
    exact (returns_ofExcept _).bind fun body => (returns_ofExcept _).bind fun headers =>
      (returns_perform (h service rfl) _ _).bind fun answer => returns_pure _

end ApiCall

/-! ### Condition -/

namespace Condition

variable (config : ConditionConfig)

theorem gives_execute : Gives Outcome.SelfContained (execute config data : Interaction σ Outcome) :=
  gives_bind fun _ => gives_pure (Outcome.selfContained_success _)

theorem makes_execute (Q : Call → Prop) : Makes Q (execute config data : Interaction σ Outcome) :=
  (makes_ofExcept _).bind fun _ => makes_pure _

theorem returns_execute : (execute config data : Interaction σ Outcome).Returns :=
  (returns_ofExcept _).bind fun _ => returns_pure _

end Condition

/-! ### All step types -/

/-- Only a transformation gives out the runtime data by reference. -/
theorem gives_selfContained_execute (hother : ∀ config, step.config ≠ .dataTransformation config) :
    Gives Outcome.SelfContained (execute collaborators step data timeout) := by
  unfold execute
  split
  · exact AiProcessing.gives_execute data timeout _
  · next config hconfig => exact absurd hconfig (hother config)
  · exact Notify.gives_execute data _
  · exact ApiCall.gives_execute data timeout _
  · exact Condition.gives_execute data _

theorem gives_execute : Gives Outcome.Telling (execute collaborators step data timeout) := by
  by_cases htransformation : ∃ config, step.config = .dataTransformation config
  · obtain ⟨config, hconfig⟩ := htransformation
    simpa only [execute, hconfig] using DataTransformation.gives_execute data config
  · have hother := not_exists.mp htransformation
    exact (gives_selfContained_execute collaborators step data timeout hother).mono
      fun _ => Outcome.SelfContained.telling

theorem makes_execute :
    Makes (OnBehalfOf (requester data)) (execute collaborators step data timeout) := by
  unfold execute
  split
  · exact AiProcessing.makes_execute data timeout _
  · exact DataTransformation.makes_execute data _ _
  · exact Notify.makes_execute data _ _
  · exact ApiCall.makes_execute data timeout _ _
  · exact Condition.makes_execute data _ _

/-- Only a service that hangs makes an executor hang. -/
theorem returns_execute {collaborators : Collaborators σ} (h : collaborators.Responsive) :
    (execute collaborators step data timeout).Returns := by
  unfold execute
  split
  · exact AiProcessing.returns_execute data timeout _ h.completion
  · exact DataTransformation.returns_execute data _
  · exact Notify.returns_execute data _ h.template h.notifier
  · exact ApiCall.returns_execute data timeout _ h.http
  · exact Condition.returns_execute data _

/-! ### Runs -/

theorem timedOutText_ne_empty (seconds : Number) : timedOutText seconds ≠ "" := by
  unfold timedOutText
  simp [toString]

/-- What comes of an attempt is what was executed gives, or a failure with a reason in words. -/
theorem Attempt.of_gives {P : Outcome → Prop} {deadline : Option Number} {x : Interaction σ Outcome}
    {stage after : Stage σ} {outcome : Outcome} (hgives : Gives P x)
    (hfailure : ∀ text, text ≠ "" → P (.failure (some text)))
    (h : Attempt deadline x stage (.answered outcome) after) : P outcome := by
  cases h with
  | answered h => exact hgives stage outcome (by rw [h])
  | failed => exact hfailure _ (Failure.text_ne_empty _)
  | unstartable => exact hfailure _ (Failure.text_ne_empty _)
  | missed => exact hfailure _ (timedOutText_ne_empty _)
  | givenUp => exact hfailure _ (timedOutText_ne_empty _)

theorem makes_run_of_guarded {executor : Executor σ} {Q : Call → Prop} {deadlines : Deadlines}
    {guarded : Step → Data → Option Number → Interaction σ Outcome}
    (hprocedure : executor.procedure = .guarded guarded)
    (hmakes : Makes Q (guarded step data (deadlines.effective step))) (clock : σ → Instant) :
    Makes Q (executor.run clock deadlines step data) := by
  intro stage
  rcases calls_of_guarded hprocedure clock deadlines step data stage with hcalls | hcalls
  · exact ⟨[], by rw [hcalls, List.append_nil], by simp⟩
  · obtain ⟨made, hmade, hall⟩ := hmakes (announced step (deadlines.effective step) stage)
    exact ⟨made, by rw [hcalls, hmade]; rfl, hall⟩

variable {collaborators}

theorem procedure_standard (collaborators : Collaborators σ) (type : StepType) :
    (standard collaborators type).procedure = .guarded (execute collaborators) := by
  cases type <;> rfl

theorem telling_of_run_standard {type : StepType} {clock : σ → Instant} {deadlines : Deadlines}
    {stage after : Stage σ} {result : StepResult}
    (hrun : (standard collaborators type).run clock deadlines step data stage
      = (.answered (.result result), after)) : result.outcome.Telling := by
  obtain ⟨found, finished, hfound, -, hattempt⟩ :=
    attempt_of_run_answered (procedure_standard collaborators type) hrun
  obtain rfl := Returned.result.inj hfound
  exact hattempt.of_gives (gives_execute collaborators step data _)
    fun _ => Outcome.telling_failure

theorem selfContained_of_run_standard {type : StepType} {clock : σ → Instant}
    {deadlines : Deadlines} {stage after : Stage σ} {result : StepResult}
    (hother : ∀ config, step.config ≠ .dataTransformation config)
    (hrun : (standard collaborators type).run clock deadlines step data stage
      = (.answered (.result result), after)) : result.outcome.SelfContained := by
  obtain ⟨found, finished, hfound, -, hattempt⟩ :=
    attempt_of_run_answered (procedure_standard collaborators type) hrun
  obtain rfl := Returned.result.inj hfound
  exact hattempt.of_gives (gives_selfContained_execute collaborators step data _ hother)
    fun _ => Outcome.selfContained_failure

theorem run_transformation_of_success {type : StepType} {clock : σ → Instant}
    {deadlines : Deadlines} {stage after : Stage σ} {result : StepResult}
    (hrun : (standard collaborators type).run clock deadlines step data stage
      = (.answered (.result result), after))
    {config : TransformationConfig} (hconfig : step.config = .dataTransformation config)
    {d : Datum} (houtcome : result.outcome = .success d) : config.run data = .ok d := by
  obtain ⟨found, finished, hfound, -, hattempt⟩ :=
    attempt_of_run_answered (procedure_standard collaborators type) hrun
  obtain rfl := Returned.result.inj hfound
  rw [houtcome] at hattempt
  have hexecute := hattempt.execute_eq_of_success
  simp only [execute, hconfig] at hexecute
  exact DataTransformation.run_of_execute_success hexecute

theorem not_hangsOpenly_standard (h : collaborators.Responsive) (type : StepType)
    (deadlines : Deadlines) (stage : Stage σ) :
    ¬ (standard collaborators type).HangsOpenly deadlines step data stage := by
  unfold HangsOpenly
  rw [procedure_standard]
  rintro ⟨-, hhung⟩
  exact returns_execute step data _ h _ hhung

end Executor

namespace Registry

variable {σ : Type}

theorem find?_standard (collaborators : Collaborators σ) (deadlines : Deadlines) (type : StepType) :
    (standard collaborators deadlines).find? type = some (.standard collaborators type) := by
  cases type <;> rfl

/-- Each step type has its standard executor, with whatever services. -/
def IsStandard (registry : Registry σ) : Prop :=
  ∀ type, ∃ collaborators, registry.find? type = some (.standard collaborators type)

theorem isStandard_standard (collaborators : Collaborators σ) (deadlines : Deadlines) :
    (standard collaborators deadlines).IsStandard :=
  fun type => ⟨collaborators, find?_standard collaborators deadlines type⟩

/-- Every executor in the registry has a property. -/
def All (registry : Registry σ) (P : Executor σ → Prop) : Prop :=
  ∀ executor ∈ registry.executors, P executor

section All

variable {registry : Registry σ} {P : Executor σ → Prop}

theorem All.of_find? (h : registry.All P) {type : StepType} {executor : Executor σ}
    (hfound : registry.find? type = some executor) : P executor :=
  h executor (List.mem_of_find?_eq_some hfound)

theorem all_standard {collaborators : Collaborators σ}
    (h : ∀ type, P (.standard collaborators type)) (deadlines : Deadlines) :
    (standard collaborators deadlines).All P := by
  intro executor hexecutor
  obtain ⟨type, -, rfl⟩ := List.mem_map.mp hexecutor
  exact h type

theorem All.register (h : registry.All P) {executor : Executor σ} (hexecutor : P executor) :
    (registry.register executor).All P := by
  intro found hfound
  unfold Registry.register at hfound
  split at hfound
  · obtain ⟨other, hother, rfl⟩ := List.mem_map.mp hfound
    split
    · exact hexecutor
    · exact h other hother
  · rcases List.mem_append.mp hfound with hbefore | hnew
    · exact h found hbefore
    · rwa [List.mem_singleton.mp hnew]

end All

end Registry

namespace Sample

/-- No service at all. -/
def collaborators : Collaborators Unit where
  template := none
  completion := none
  notifier := none
  http := none

theorem collaborators_responsive : collaborators.Responsive := by
  constructor <;> simp [collaborators]

end Sample

end Runbook
