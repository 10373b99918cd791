import Runbook.Proofs.Executor.Standard
import Runbook.Proofs.Interaction.Agreement

/-!
# What executors go by

An executor that agrees with itself along a relation between stages comes to the same on related stages,
but for the time it takes. With the standard executors it is enough to look at their services.
-/

namespace Runbook

/-! ### Times aside -/

/-- A result without the time that it took. -/
def StepResult.plain (result : StepResult) : StepResult :=
  { result with executionTimeMs := 0 }

def Returned.plain : Returned → Returned
  | .result found => .result found.plain
  | .foreign kind => .foreign kind

def Reply.map {α β : Type} (f : α → β) : Reply α → Reply β
  | .answered a => .answered (f a)
  | .raised failure => .raised failure
  | .hung => .hung

variable {σ : Type} {R : Stage σ → Stage σ → Prop}

/-- The services at hand answer the same on related stages and leave related ones. -/
structure Collaborators.Agree (R : Stage σ → Stage σ → Prop) (collaborators : Collaborators σ) :
    Prop where
  template : ∀ service ∈ collaborators.template, ∀ id,
    Interaction.Agree R (Interaction.consult service id) (Interaction.consult service id)
  completion : ∀ service ∈ collaborators.completion, ∀ call,
    Interaction.Agree R (Interaction.perform (.completion call) service call)
      (Interaction.perform (.completion call) service call)
  notifier : ∀ service ∈ collaborators.notifier, ∀ message,
    Interaction.Agree R (Interaction.perform (.notification message) service message)
      (Interaction.perform (.notification message) service message)
  http : ∀ service ∈ collaborators.http, ∀ call,
    Interaction.Agree R (Interaction.perform (.http call) service call)
      (Interaction.perform (.http call) service call)

namespace Executor

open Interaction

/-! ### The five step types -/

section Execute

variable {collaborators : Collaborators σ} (step : Step) (data : Data) (timeout : Option Number)

theorem AiProcessing.agree_outcome {x y : Interaction σ Value} (h : Agree R x y) :
    Agree R (fun stage => outcome (x stage)) (fun stage => outcome (y stage)) := by
  intro s t hst
  obtain ⟨hreply, hafter⟩ := h s t hst
  show (outcome (x s)).1 = (outcome (y t)).1 ∧ R (outcome (x s)).2 (outcome (y t)).2
  rcases hs : x s with ⟨v | failure | _, after⟩ <;> rcases ht : y t with ⟨w | other | _, later⟩ <;>
    rw [hs, ht] at hreply hafter <;> cases hreply
  · exact ⟨rfl, hafter⟩
  · cases failure <;> exact ⟨rfl, hafter⟩
  · exact ⟨rfl, hafter⟩

theorem AiProcessing.agree_execute {completion : Option (Service σ CompletionCall Value)}
    (hcompletion : ∀ service ∈ completion, ∀ call,
      Agree R (perform (.completion call) service call) (perform (.completion call) service call))
    (config : AiConfig) :
    Agree R (execute completion config data timeout) (execute completion config data timeout) := by
  unfold execute
  split
  · exact agree_pure _
  · next service =>
    refine (agree_ofExcept _).bind fun prompt => ?_
    exact agree_outcome (hcompletion service rfl _)

theorem DataTransformation.agree_execute (config : TransformationConfig) :
    Agree R (execute config data) (execute config data) := by
  unfold execute
  split
  · exact agree_pure _
  · exact agree_raise _

theorem Condition.agree_execute (config : ConditionConfig) :
    Agree R (execute config data) (execute config data) :=
  (agree_ofExcept _).bind fun _ => agree_pure _

theorem Notify.agree_execute {template : Option (Service σ String (Option NotificationTemplate))}
    {notifier : Option (Service σ Notification Acknowledgement)}
    (htemplate : ∀ service ∈ template, ∀ id, Agree R (consult service id) (consult service id))
    (hnotifier : ∀ service ∈ notifier, ∀ message,
      Agree R (perform (.notification message) service message)
        (perform (.notification message) service message))
    (config : NotificationConfig) :
    Agree R (execute template notifier config data) (execute template notifier config data) := by
  unfold execute
  split
  · next lookup service =>
    refine (htemplate lookup rfl _).bind fun found => ?_
    split
    · exact agree_pure _
    · split
      · refine (agree_ofExcept _).bind fun subject => (agree_ofExcept _).bind fun content => ?_
        exact (hnotifier service rfl _).bind fun ack => agree_pure _
      · exact agree_pure _
  · exact agree_pure _

theorem ApiCall.agree_execute {http : Option (Service σ HttpCall HttpAnswer)}
    (hhttp : ∀ service ∈ http, ∀ call,
      Agree R (perform (.http call) service call) (perform (.http call) service call))
    (config : ApiCallConfig) :
    Agree R (execute http config data timeout) (execute http config data timeout) := by
  unfold execute
  split
  · exact agree_pure _
  · next service =>
    refine (agree_ofExcept _).bind fun body => (agree_ofExcept _).bind fun headers => ?_
    exact (hhttp service rfl _).bind fun answer => agree_pure _

theorem agree_execute (h : collaborators.Agree R) :
    Agree R (execute collaborators step data timeout) (execute collaborators step data timeout) := by
  unfold execute
  split
  · exact AiProcessing.agree_execute data timeout h.completion _
  · exact DataTransformation.agree_execute data _
  · exact Notify.agree_execute data h.template h.notifier _
  · exact ApiCall.agree_execute data timeout h.http _
  · exact Condition.agree_execute data _

end Execute

/-! ### Runs -/

/-- An executor whose actions agree with themselves, for every step and all data. -/
def Agrees (R : Stage σ → Stage σ → Prop) (executor : Executor σ) : Prop :=
  match executor.procedure with
  | .guarded execute =>
    ∀ step data timeout, Agree R (execute step data timeout) (execute step data timeout)
  | .bare run => ∀ step data, Agree R (run step data) (run step data)

theorem agrees_standard {collaborators : Collaborators σ} (h : collaborators.Agree R)
    (type : StepType) : (standard collaborators type).Agrees R := by
  rw [Agrees, procedure_standard]
  exact fun step data timeout => agree_execute step data timeout h

/-- The titles under which the course of a guarded step is logged. -/
def courseTitles : List String :=
  ["Step starting", "Step raised", "Step finished"]

/-- Related stages stay so when the course of a guarded step is logged on both. What is logged may tell
the time since two other related stages, each by its own clock. -/
def AdmitsCourse (R : Stage σ → Stage σ → Prop) (clock other : σ → Instant) : Prop :=
  ∀ before begun s t level title (fields : Int → Value.Fields), title ∈ courseTitles →
    R before begun → R s t →
      R (s.note level title (fields ((clock before.world).millisecondsUntil (clock s.world))))
        (t.note level title (fields ((other begun.world).millisecondsUntil (other t.world))))

theorem AdmitsCourse.note {clock other : σ → Instant} (h : AdmitsCourse R clock other) {s t : Stage σ}
    (hst : R s t) (level : Level) {title : String} (htitle : title ∈ courseTitles)
    (fields : Value.Fields) : R (s.note level title fields) (t.note level title fields) :=
  h s t s t level title (fun _ => fields) htitle hst hst

section Run

variable {clock other : σ → Instant} (hcourse : AdmitsCourse R clock other) (step : Step)
include hcourse

theorem agree_settle {x y : Interaction σ Outcome} (h : Agree R x y) :
    Agree R (fun stage => settle step (x stage)) (fun stage => settle step (y stage)) := by
  intro s t hst
  obtain ⟨hreply, hafter⟩ := h s t hst
  show (settle step (x s)).1 = (settle step (y t)).1 ∧ R (settle step (x s)).2 (settle step (y t)).2
  rcases hs : x s with ⟨outcome | failure | _, after⟩ <;>
    rcases ht : y t with ⟨other | cause | _, later⟩ <;>
    rw [hs, ht] at hreply hafter <;> cases hreply
  · exact ⟨rfl, hafter⟩
  · exact ⟨rfl, hcourse.note hafter _ (by decide) _⟩
  · exact ⟨rfl, hafter⟩

theorem agree_underDeadline (deadline : Option Number) {x y : Interaction σ Outcome}
    (h : Agree R x y) :
    Agree R (underDeadline step deadline x) (underDeadline step deadline y) := by
  intro s t hst
  have hsettled := agree_settle hcourse step h s t hst
  unfold underDeadline
  cases hdeadline : binding? deadline with
  | none => exact hsettled
  | some seconds =>
    by_cases hpast : seconds.isNonPositive = true
    · simp only [hpast, if_true]
      exact ⟨trivial, hst⟩
    · by_cases hlarge : seconds.isOversized = true
      · simp only [hpast, hlarge, if_true]
        exact ⟨rfl, hcourse.note hst _ (by decide) _⟩
      · simp only [hpast, hlarge]
        obtain ⟨hreply, hafter⟩ := hsettled
        rcases hs : settle step (x s) with ⟨outcome | failure | _, after⟩ <;>
          rcases ht : settle step (y t) with ⟨other | cause | _, later⟩ <;>
          simp only [hs, ht] at hreply hafter <;> cases hreply
        all_goals exact ⟨rfl, hafter⟩

theorem reported_agree {x y : Reply Outcome × Stage σ} (hreply : x.1 = y.1) (hafter : R x.2 y.2)
    {s t : Stage σ} (hst : R s t) :
    (reported clock step (clock s.world) x).1.map Returned.plain
        = (reported other step (other t.world) y).1.map Returned.plain ∧
      R (reported clock step (clock s.world) x).2 (reported other step (other t.world) y).2 := by
  rcases x with ⟨outcome | failure | _, after⟩ <;> rcases y with ⟨found | cause | _, later⟩ <;>
    cases hreply
  · refine ⟨rfl, hcourse s t after later _ _ (fun duration => [
      ("step_id", .string step.id), ("step_type", .string step.type.name),
      ("success", .bool outcome.isSuccess), ("error", .optionalText outcome.error?),
      ("duration_ms", .int duration)]) (by decide) hst hafter⟩
  · exact ⟨rfl, hafter⟩
  · exact ⟨rfl, hafter⟩

/-- On related stages an executor comes to the same, by whatever clocks the log of its course admits. -/
theorem Agrees.run {executor : Executor σ} (h : executor.Agrees R) (deadlines : Deadlines)
    (data : Data) {s t : Stage σ} (hst : R s t) :
    (executor.run clock deadlines step data s).1.map Returned.plain
        = (executor.run other deadlines step data t).1.map Returned.plain ∧
      R (executor.run clock deadlines step data s).2 (executor.run other deadlines step data t).2 := by
  unfold Agrees at h
  cases hprocedure : executor.procedure with
  | guarded execute =>
    rw [hprocedure] at h
    -- Clocks are read at the start and for the report alone, and all they give is the time it took.
    rw [run_of_guarded hprocedure, run_of_guarded hprocedure]
    have hannounced : R (announced step (deadlines.effective step) s)
        (announced step (deadlines.effective step) t) := hcourse.note hst _ (by decide) _
    obtain ⟨hreply, hafter⟩ := agree_underDeadline hcourse step (deadlines.effective step)
      (h step data (deadlines.effective step)) _ _ hannounced
    exact reported_agree hcourse step hreply hafter hst
  | bare run =>
    rw [hprocedure] at h
    simp only [Executor.run, hprocedure]
    obtain ⟨hreply, hafter⟩ := h step data s t hst
    exact ⟨by rw [hreply], hafter⟩

end Run

end Executor

end Runbook
