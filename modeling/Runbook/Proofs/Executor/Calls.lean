import Runbook.Proofs.Executor.Standard

/-!
# The one call of a step

A step calls a service once at most, whatever that service does, and its type says which service. What
an interaction may have called is related to how it went: steps of the three types that act on the
outside succeed by their call alone.
-/

namespace Runbook

/-- The step type that a call belongs to. -/
def Call.type : Call → StepType
  | .completion _ => .aiProcessing
  | .notification _ => .notification
  | .http _ => .apiCall

/-- Whether steps of a type act on the outside. -/
def StepType.Acts (type : StepType) : Prop :=
  type = .aiProcessing ∨ type = .notification ∨ type = .apiCall

theorem Call.acts_type (call : Call) : call.type.Acts := by
  cases call with
  | completion => exact Or.inl rfl
  | notification => exact Or.inr (Or.inl rfl)
  | http => exact Or.inr (Or.inr rfl)

namespace Interaction

variable {σ α β : Type}

/-- An interaction that calls one service at most, as a relation allows for its reply. -/
def CallsOnce (P : Option Call → Reply α → Prop) (x : Interaction σ α) : Prop :=
  ∀ stage, ∃ call, (x stage).2.calls = stage.calls ++ call.toList ∧ P call (x stage).1

variable {P : Option Call → Reply α → Prop}

theorem callsOnce_pure {a : α} (h : P none (.answered a)) :
    CallsOnce P (pure a : Interaction σ α) :=
  fun stage => ⟨none, (List.append_nil stage.calls).symm, h⟩

theorem callsOnce_raise {failure : Failure} (h : P none (.raised failure)) :
    CallsOnce P (Dialogue.raise failure : Interaction σ α) :=
  fun stage => ⟨none, (List.append_nil stage.calls).symm, h⟩

theorem callsOnce_perform {call : Call} (h : ∀ reply, P (some call) reply)
    (service : Service σ β α) (b : β) : CallsOnce P (perform call service b) :=
  fun _ => ⟨some call, rfl, h _⟩

/-- What is called after a start without calls is all that is called. -/
theorem CallsOnce.after {x : Interaction σ β} {f : β → Interaction σ α}
    (hx : ∀ stage, (x stage).2.calls = stage.calls) (hraised : ∀ failure, P none (.raised failure))
    (hhung : P none .hung) (hf : ∀ b, CallsOnce P (f b)) : CallsOnce P (x >>= f) := by
  intro stage
  have hsilent := hx stage
  rw [Dialogue.bind_apply]
  rcases hreply : x stage with ⟨b | failure | _, after⟩ <;> rw [hreply] at hsilent
  · obtain ⟨call, hcalls, hP⟩ := hf b after
    exact ⟨call, by rw [hcalls, hsilent], hP⟩
  · exact ⟨none, by simpa using hsilent, hraised failure⟩
  · exact ⟨none, by simpa using hsilent, hhung⟩

theorem CallsOnce.then_pure {Q : Option Call → Reply β → Prop} {x : Interaction σ β}
    (hx : CallsOnce Q x) {f : β → α}
    (hanswered : ∀ call b, Q call (.answered b) → P call (.answered (f b)))
    (hraised : ∀ call failure, Q call (.raised failure) → P call (.raised failure))
    (hhung : ∀ call, Q call .hung → P call .hung) :
    CallsOnce P (do return f (← x)) := by
  intro stage
  obtain ⟨call, hcalls, hQ⟩ := hx stage
  rw [Dialogue.bind_apply]
  rcases hreply : x stage with ⟨b | failure | _, after⟩ <;> rw [hreply] at hcalls hQ
  · exact ⟨call, hcalls, hanswered call b hQ⟩
  · exact ⟨call, hcalls, hraised call failure hQ⟩
  · exact ⟨call, hcalls, hhung call hQ⟩

theorem calls_ofExcept (result : Except Failure α) (stage : Stage σ) :
    (Dialogue.ofExcept result stage).2.calls = stage.calls := by
  cases result <;> rfl

end Interaction

namespace Executor

open Interaction

variable {σ : Type} {collaborators : Collaborators σ} {step : Step} {data : Data}
  {timeout : Option Number}

/-- What a step of a type may have called: nothing but a service of its type, and that for sure if it
acts on the outside and is a success. -/
structure MayCall (type : StepType) (success : Prop) (call : Option Call) : Prop where
  kind : ∀ made ∈ call, made.type = type
  made : type.Acts → success → call.isSome = true

theorem mayCall_none {type : StepType} {success : Prop} (h : type.Acts → ¬ success) :
    MayCall type success none where
  kind := by simp
  made hacts hsuccess := absurd hsuccess (h hacts)

theorem mayCall_some {type : StepType} {success : Prop} {call : Call} (h : call.type = type) :
    MayCall type success (some call) where
  kind made hmade := by
    obtain rfl := Option.some.inj hmade
    exact h
  made _ _ := rfl

theorem MayCall.mono {type : StepType} {success other : Prop} {call : Option Call}
    (h : MayCall type success call) (hother : other → success) : MayCall type other call where
  kind := h.kind
  made hacts hsuccess := h.made hacts (hother hsuccess)

theorem MayCall.none_of_not_acts {type : StepType} {success : Prop} {call : Option Call}
    (h : MayCall type success call) (hacts : ¬ type.Acts) : call = none := by
  cases call with
  | none => rfl
  | some made => exact absurd (h.kind made rfl ▸ made.acts_type) hacts

/-! ### The five step types -/

/-- What a step of a type may have called when it went as it did. -/
def CallsFor (type : StepType) (call : Option Call) (reply : Reply Outcome) : Prop :=
  MayCall type (∃ d, reply = .answered (.success d)) call

section CallsFor

variable {type : StepType}

theorem callsFor_none {reply : Reply Outcome} (h : ∀ d, reply ≠ .answered (.success d)) :
    CallsFor type none reply := by
  refine mayCall_none fun _ => ?_
  rintro ⟨d, hd⟩
  exact h d hd

theorem callsFor_failure (error : Option String) :
    CallsFor type none (.answered (.failure error)) :=
  callsFor_none (by simp)

theorem callsFor_raised (failure : Failure) : CallsFor type none (.raised failure) :=
  callsFor_none (by simp)

theorem callsFor_hung : CallsFor type none .hung :=
  callsFor_none (by simp)

theorem callsFor_of_not_acts (h : ¬ type.Acts) (reply : Reply Outcome) : CallsFor type none reply :=
  mayCall_none fun hacts => absurd hacts h

theorem callsOnce_after_ofExcept {β : Type} (result : Except Failure β)
    {f : β → Interaction σ Outcome} (hf : ∀ b, CallsOnce (CallsFor type) (f b)) :
    CallsOnce (CallsFor type) (Dialogue.ofExcept result >>= f) :=
  CallsOnce.after (calls_ofExcept result) callsFor_raised callsFor_hung hf

theorem callsOnce_perform_pure {β γ : Type} {call : Call} (h : call.type = type)
    (service : Service σ γ β) (c : γ) (f : β → Outcome) :
    CallsOnce (CallsFor type) (do return f (← perform call service c) : Interaction σ Outcome) := by
  have hperform : CallsOnce (fun made _ => made = some call) (perform call service c) :=
    callsOnce_perform (fun _ => rfl) service c
  refine hperform.then_pure ?_ ?_ ?_
  · rintro made b rfl
    exact mayCall_some h
  · rintro made failure rfl
    exact mayCall_some h
  · rintro made rfl
    exact mayCall_some h

end CallsFor

theorem AiProcessing.callsOnce_execute (completion : Option (Service σ CompletionCall Value))
    (config : AiConfig) :
    CallsOnce (CallsFor .aiProcessing) (execute completion config data timeout) := by
  unfold execute
  split
  · exact callsOnce_pure (callsFor_failure _)
  · next service =>
    refine callsOnce_after_ofExcept _ fun prompt stage => ?_
    -- The call is made before it is known what the reply means.
    refine ⟨some (.completion (call config prompt data timeout)), ?_, mayCall_some rfl⟩
    rw [calls_outcome]
    rfl

theorem DataTransformation.callsOnce_execute (config : TransformationConfig) :
    CallsOnce (CallsFor .dataTransformation) (execute config data : Interaction σ Outcome) := by
  have hacts : ¬ StepType.dataTransformation.Acts := by simp [StepType.Acts]
  unfold execute
  split
  · exact callsOnce_pure (callsFor_of_not_acts hacts _)
  · exact callsOnce_raise (callsFor_raised _)

theorem Condition.callsOnce_execute (config : ConditionConfig) :
    CallsOnce (CallsFor .condition) (execute config data : Interaction σ Outcome) := by
  have hacts : ¬ StepType.condition.Acts := by simp [StepType.Acts]
  exact callsOnce_after_ofExcept _ fun verdict => callsOnce_pure (callsFor_of_not_acts hacts _)

theorem Notify.callsOnce_execute
    (template : Option (Service σ String (Option NotificationTemplate)))
    (notifier : Option (Service σ Notification Acknowledgement)) (config : NotificationConfig) :
    CallsOnce (CallsFor .notification) (execute template notifier config data) := by
  unfold execute
  split
  · next lookup service =>
    refine CallsOnce.after (fun _ => rfl) callsFor_raised callsFor_hung fun found => ?_
    split
    · exact callsOnce_pure (callsFor_failure _)
    · split
      · exact callsOnce_after_ofExcept _ fun subject => callsOnce_after_ofExcept _ fun content =>
          callsOnce_perform_pure rfl service _ outcome
      · exact callsOnce_pure (callsFor_failure _)
  · exact callsOnce_pure (callsFor_failure _)

theorem ApiCall.callsOnce_execute (http : Option (Service σ HttpCall HttpAnswer))
    (config : ApiCallConfig) :
    CallsOnce (CallsFor .apiCall) (execute http config data timeout) := by
  unfold execute
  split
  · exact callsOnce_pure (callsFor_failure _)
  · next service =>
    exact callsOnce_after_ofExcept _ fun body => callsOnce_after_ofExcept _ fun headers =>
      callsOnce_perform_pure rfl service _ outcome

theorem callsOnce_execute :
    CallsOnce (CallsFor step.type) (execute collaborators step data timeout) := by
  unfold execute
  split
  · next config hconfig =>
    rw [Step.type, hconfig]
    exact AiProcessing.callsOnce_execute _ config
  · next config hconfig =>
    rw [Step.type, hconfig]
    exact DataTransformation.callsOnce_execute config
  · next config hconfig =>
    rw [Step.type, hconfig]
    exact Notify.callsOnce_execute _ _ config
  · next config hconfig =>
    rw [Step.type, hconfig]
    exact ApiCall.callsOnce_execute _ config
  · next config hconfig =>
    rw [Step.type, hconfig]
    exact Condition.callsOnce_execute config

/-! ### Runs -/

/-- An attempt that calls nothing has not been a success. -/
theorem Attempt.callsOnce {type : StepType} {deadline : Option Number} {x : Interaction σ Outcome}
    {stage after : Stage σ} {reply : Reply Outcome} (hx : CallsOnce (CallsFor type) x)
    (h : Attempt deadline x stage reply after) :
    ∃ call, after.calls = stage.calls ++ call.toList ∧ CallsFor type call reply := by
  obtain ⟨call, hcalls, hfor⟩ := hx stage
  have hfailed : ∀ error, CallsFor type call (.answered (.failure error)) := fun error =>
    hfor.mono (by rintro ⟨d, hd⟩; cases hd)
  cases h with
  | answered h =>
    rw [h] at hcalls hfor
    exact ⟨call, hcalls, hfor⟩
  | failed h =>
    rw [h] at hcalls
    exact ⟨call, hcalls, hfailed _⟩
  | unstartable => exact ⟨none, (List.append_nil _).symm, callsFor_failure _⟩
  | missed => exact ⟨none, (List.append_nil _).symm, callsFor_failure _⟩
  | givenUp _ hhung =>
    rw [hhung] at hcalls
    exact ⟨call, hcalls, hfailed _⟩
  | stalled _ hhung =>
    rw [hhung] at hcalls hfor
    exact ⟨call, hcalls, hfor⟩
  | wordless => exact ⟨none, (List.append_nil _).symm, callsFor_raised _⟩

/-- A run of a standard executor calls once at most, and for sure if its result is the success of a step
that acts on the outside. -/
theorem callsOnce_run_standard {type : StepType} (clock : σ → Instant) (deadlines : Deadlines)
    (step : Step) (data : Data) :
    CallsOnce (fun call reply => MayCall step.type
        (∃ result, reply = .answered (.result result) ∧ result.outcome.isSuccess = true) call)
      ((standard collaborators type).run clock deadlines step data) := by
  intro stage
  obtain ⟨reply, finished, hattempt, hreported⟩ := exists_attempt_of_guarded
    (procedure_standard collaborators type) clock deadlines step data stage
  obtain ⟨call, hcalls, hfor⟩ := hattempt.callsOnce callsOnce_execute
  rw [hreported]
  refine ⟨call, ?_, hfor.mono ?_⟩
  · rcases reply with outcome | failure | _ <;> exact hcalls
  · rintro ⟨result, hreply, hsuccess⟩
    cases reply with
    | answered outcome =>
      obtain rfl := Returned.result.inj (Reply.answered.inj hreply)
      cases outcome with
      | success d => exact ⟨d, rfl⟩
      | failure error => cases hsuccess
    | raised failure => cases hreply
    | hung => cases hreply

end Executor

end Runbook
