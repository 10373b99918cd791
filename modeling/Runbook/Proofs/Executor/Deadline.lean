import Runbook.Proofs.Definition
import Runbook.Proofs.Executor.Standard
import Runbook.Rehearsal

/-!
# Missed deadlines and failures of a step

A guarded step comes back with a result whatever it does, unless it hangs with nothing to end that, and
the result tells a missed deadline from a failure of the step, be that one about time. The words for a
missed deadline come up where the deadline had passed before the start, or where the step hangs. What
the step answers is handed on, and what it raises is told. Only a deadline beyond all times is too much
for this: one that is past lets a failure out, and one that is far ahead makes the step fail unstarted.
-/

namespace Runbook

/-- The deadline has passed before the step starts. -/
def Overdue (deadline : Option Number) : Prop :=
  ∃ seconds ∈ binding? deadline, seconds.isNonPositive = true

/-- No deadline is beyond all times. -/
def WithinReach (deadline : Option Number) : Prop :=
  ∀ seconds ∈ binding? deadline, seconds.isOversized = false

theorem binding?_of_unlimited {deadline : Option Number} (h : Unlimited deadline) :
    binding? deadline = none ∨ binding? deadline = some (.double (.infinite false)) := by
  cases hdeadline : binding? deadline with
  | none => exact Or.inl rfl
  | some seconds =>
    have hendless := h seconds hdeadline
    unfold Number.isEndless at hendless
    split at hendless
    · exact Or.inr rfl
    · cases hendless

/-- A failure is told in its own words, also where it is wrapped for being about time. -/
theorem text_stepFailure (failure : Failure) : (stepFailure failure).text = failure.text := by
  cases failure with
  | timedOut message =>
    have hwords : (Failure.timedOut message).text.isEmpty = false := by
      rw [String.isEmpty_eq_false_iff]
      exact Failure.text_ne_empty _
    exact if_neg (ne_true_of_eq_false hwords)
  | _ => rfl

theorem not_overdue_of_mem {deadline : Option Number} {seconds : Number}
    (hdeadline : seconds ∈ binding? deadline) (hpositive : seconds.isNonPositive = false) :
    ¬ Overdue deadline := by
  rintro ⟨other, hother, hpast⟩
  obtain rfl : seconds = other := Option.mem_unique hdeadline hother
  rw [hpositive] at hpast
  cases hpast

namespace Executor

variable {σ : Type} {step : Step} {deadline : Option Number} {execute : Interaction σ Outcome}
  {stage : Stage σ}

theorem letsStart_of_not_overdue (hreach : WithinReach deadline) (hpunctual : ¬ Overdue deadline) :
    LetsStart deadline := by
  intro seconds hseconds
  refine ⟨?_, hreach seconds hseconds⟩
  cases hpast : seconds.isNonPositive with
  | false => rfl
  | true => exact absurd ⟨seconds, hseconds, hpast⟩ hpunctual

theorem settle_of_answered {reply : Reply Outcome × Stage σ} {outcome : Outcome}
    (h : reply.1 = .answered outcome) : (settle step reply).1 = .answered outcome := by
  obtain ⟨_, after⟩ := reply
  obtain rfl := h
  rfl

theorem settle_of_raised {reply : Reply Outcome × Stage σ} {failure : Failure}
    (h : reply.1 = .raised failure) :
    (settle step reply).1 = .answered (.failure (some failure.text)) := by
  obtain ⟨_, after⟩ := reply
  obtain rfl := h
  simp only [settle, text_stepFailure]

theorem settle_of_hung {reply : Reply Outcome × Stage σ} (h : reply.1 = .hung) :
    (settle step reply).1 = .hung := by
  obtain ⟨_, after⟩ := reply
  obtain rfl := h
  rfl

theorem underDeadline_of_nonPositive {seconds : Number} (hdeadline : seconds ∈ binding? deadline)
    (hpast : seconds.isNonPositive = true) (hreach : WithinReach deadline) (step : Step)
    (execute : Interaction σ Outcome) (stage : Stage σ) :
    underDeadline step deadline execute stage
      = (.answered (.failure (some (timedOutText seconds))), stage) := by
  have hsmall := hreach seconds hdeadline
  rw [Option.mem_def] at hdeadline
  simp [underDeadline, hdeadline, hpast, hsmall]

theorem underDeadline_of_unlimited (hopen : Unlimited deadline)
    (hhung : (execute stage).1 = .hung) (step : Step) :
    (underDeadline step deadline execute stage).1 = .hung := by
  rcases hexecute : execute stage with ⟨reply, after⟩
  rw [hexecute] at hhung
  obtain rfl : reply = .hung := hhung
  rcases binding?_of_unlimited hopen with hdeadline | hdeadline
  · simp only [underDeadline, hdeadline, hexecute, settle]
  · have hstarts : Number.isNonPositive (.double (.infinite false)) = false ∧
        Number.isOversized (.double (.infinite false)) = false ∧
        Number.isEndless (.double (.infinite false)) = true := by decide
    simp [underDeadline, hdeadline, hexecute, settle, hstarts]

/-- What a failed attempt goes back to. -/
theorem Attempt.eq_of_failure {error : Option String} {after : Stage σ}
    (h : Attempt deadline execute stage (.answered (.failure error)) after)
    (hreach : WithinReach deadline) :
    (∃ seconds ∈ binding? deadline, error = some (timedOutText seconds) ∧
        (seconds.isNonPositive = true ∨ (execute stage).1 = .hung)) ∨
      (execute stage).1 = .answered (.failure error) ∨
        ∃ failure, (execute stage).1 = .raised failure ∧ error = some failure.text := by
  cases h with
  | answered h => exact Or.inr (Or.inl (by rw [h]))
  | failed h => exact Or.inr (Or.inr ⟨_, by rw [h], by rw [text_stepFailure]⟩)
  | unstartable h hlarge =>
    rw [hreach _ h] at hlarge
    cases hlarge
  | missed h hpast => exact Or.inl ⟨_, h, rfl, Or.inl hpast⟩
  | givenUp h hhung => exact Or.inl ⟨_, h, rfl, Or.inr (by rw [hhung])⟩

/-! ### What the caller gets -/

/-- A run has come back with a result of this outcome. -/
def EndsWith (run : Reply Returned × Stage σ) (outcome : Outcome) : Prop :=
  ∃ result, run.1 = .answered (.result result) ∧ result.outcome = outcome

@[simp] theorem endsWith_reported {clock : σ → Instant} {start : Instant} {reply : Reply Outcome}
    {finished : Stage σ} {outcome : Outcome} :
    EndsWith (reported clock step start (reply, finished)) outcome ↔ reply = .answered outcome := by
  cases reply <;> simp [EndsWith, reported]

/-- What a guarded step comes to on its own, once its start has been logged. -/
def executed (execute : Step → Data → Option Number → Interaction σ Outcome) (deadlines : Deadlines)
    (step : Step) (data : Data) (stage : Stage σ) : Reply Outcome :=
  (execute step data (deadlines.effective step)
    (announced step (deadlines.effective step) stage)).1

/-- What the run of a step owes its caller. -/
structure Delivers (executor : Executor σ)
    (execute : Step → Data → Option Number → Interaction σ Outcome) (clock : σ → Instant)
    (deadlines : Deadlines) (step : Step) (data : Data) (stage : Stage σ) : Prop where
  /-- There is a result, with the time that the step has taken. -/
  returns : ∃ result, (executor.run clock deadlines step data stage).1 = .answered (.result result) ∧
    result.executionTimeMs = (clock stage.world).millisecondsUntil
      (clock (executor.run clock deadlines step data stage).2.world)
  /-- A deadline that has passed keeps the step from being started: no call is made, the world is as it
  was, and any other step in its place would have gone the same way. -/
  unstarted : ∀ seconds ∈ binding? (deadlines.effective step), seconds.isNonPositive = true →
    EndsWith (executor.run clock deadlines step data stage)
        (.failure (some (timedOutText seconds))) ∧
      (executor.run clock deadlines step data stage).2.world = stage.world ∧
      (executor.run clock deadlines step data stage).2.calls = stage.calls ∧
      ∀ (other : Executor σ) guarded, other.procedure = .guarded guarded →
        other.run clock deadlines step data stage = executor.run clock deadlines step data stage
  passed : ¬ Overdue (deadlines.effective step) →
    ∀ outcome, executed execute deadlines step data stage = .answered outcome →
      EndsWith (executor.run clock deadlines step data stage) outcome
  told : ¬ Overdue (deadlines.effective step) →
    ∀ failure, executed execute deadlines step data stage = .raised failure →
      EndsWith (executor.run clock deadlines step data stage) (.failure (some failure.text))
  givenUp : ¬ Overdue (deadlines.effective step) →
    executed execute deadlines step data stage = .hung →
      ∃ seconds ∈ binding? (deadlines.effective step),
        EndsWith (executor.run clock deadlines step data stage)
          (.failure (some (timedOutText seconds)))
  /-- A failure is a missed deadline, or the answer of the step, or what the step raised. -/
  accounted : ∀ error, EndsWith (executor.run clock deadlines step data stage) (.failure error) →
    (∃ seconds ∈ binding? (deadlines.effective step), error = some (timedOutText seconds) ∧
        (seconds.isNonPositive = true ∨ executed execute deadlines step data stage = .hung)) ∨
      executed execute deadlines step data stage = .answered (.failure error) ∨
        ∃ failure, executed execute deadlines step data stage = .raised failure ∧
          error = some failure.text

section Run

variable {executor : Executor σ} {clock : σ → Instant} {deadlines : Deadlines} {data : Data}
  {guarded : Step → Data → Option Number → Interaction σ Outcome}
  (hprocedure : executor.procedure = .guarded guarded)
include hprocedure

theorem hangsOpenly_iff_of_guarded :
    executor.HangsOpenly deadlines step data stage ↔
      Unlimited (deadlines.effective step) ∧ executed guarded deadlines step data stage = .hung := by
  rw [HangsOpenly, hprocedure]
  rfl

theorem run_of_hangsOpenly (hopen : executor.HangsOpenly deadlines step data stage) :
    (executor.run clock deadlines step data stage).1 = .hung := by
  obtain ⟨hunlimited, hhung⟩ := (hangsOpenly_iff_of_guarded hprocedure).mp hopen
  have hunder := underDeadline_of_unlimited hunlimited hhung step
  rw [run_of_guarded hprocedure]
  rcases hattempt : underDeadline step (deadlines.effective step)
    (guarded step data (deadlines.effective step))
    (announced step (deadlines.effective step) stage) with ⟨reply, finished⟩
  rw [hattempt] at hunder
  obtain rfl : reply = .hung := hunder
  rfl

theorem delivers_of_withinReach (hreach : WithinReach (deadlines.effective step))
    (hends : ¬ executor.HangsOpenly deadlines step data stage) :
    executor.Delivers guarded clock deadlines step data stage := by
  obtain ⟨reply, finished, hattempt, hrun⟩ :=
    exists_attempt_of_guarded hprocedure clock deadlines step data stage
  rw [hangsOpenly_iff_of_guarded hprocedure] at hends
  have hstarts := letsStart_of_not_overdue hreach
  constructor
  case returns =>
    rw [hrun]
    cases reply with
    | answered outcome => exact ⟨_, rfl, rfl⟩
    | raised failure =>
      obtain ⟨seconds, hseconds, -, hlarge⟩ := hattempt.unspeakable
      rw [hreach seconds hseconds] at hlarge
      cases hlarge
    | hung => exact absurd hattempt.hung hends
  case unstarted =>
    intro seconds hseconds hpast
    have hsame : ∀ (other : Executor σ) guarded, other.procedure = .guarded guarded →
        other.run clock deadlines step data stage
          = reported clock step (clock stage.world)
              (.answered (.failure (some (timedOutText seconds))),
                announced step (deadlines.effective step) stage) := by
      intro other guarded hother
      rw [run_of_guarded hother, underDeadline_of_nonPositive hseconds hpast hreach]
    rw [hsame executor guarded hprocedure]
    exact ⟨endsWith_reported.mpr rfl, rfl, rfl, hsame⟩
  case passed =>
    intro hpunctual outcome hanswered
    rcases hattempt.reply_of_letsStart (hstarts hpunctual) step with hsettled | ⟨hhung, -⟩
    · rw [hrun, endsWith_reported, hsettled]
      exact settle_of_answered hanswered
    · cases hanswered.symm.trans hhung
  case told =>
    intro hpunctual failure hraised
    rcases hattempt.reply_of_letsStart (hstarts hpunctual) step with hsettled | ⟨hhung, -⟩
    · rw [hrun, endsWith_reported, hsettled]
      exact settle_of_raised hraised
    · cases hraised.symm.trans hhung
  case givenUp =>
    intro hpunctual hhung
    rcases hattempt.reply_of_letsStart (hstarts hpunctual) step with
      hsettled | ⟨-, seconds, hseconds, rfl⟩
    · obtain rfl : reply = .hung := hsettled.trans (settle_of_hung hhung)
      exact absurd hattempt.hung hends
    · exact ⟨seconds, hseconds, by rw [hrun, endsWith_reported]⟩
  case accounted =>
    intro error herror
    rw [hrun, endsWith_reported] at herror
    subst herror
    exact hattempt.eq_of_failure hreach

/-- A step that succeeds has nothing to fear but its deadline, so that its run shows what that is. -/
theorem withinReach_of_delivers {d : Datum}
    (hsucceeds : executed guarded deadlines step data stage = .answered (.success d))
    (hdelivers : executor.Delivers guarded clock deadlines step data stage) :
    WithinReach (deadlines.effective step) := by
  intro seconds hseconds
  cases hlarge : seconds.isOversized with
  | false => rfl
  | true =>
    cases hpast : seconds.isNonPositive with
    | true =>
      obtain ⟨result, hresult, -⟩ := hdelivers.returns
      rw [run_of_unspeakable hprocedure ⟨seconds, hseconds, hpast, hlarge⟩] at hresult
      cases hresult
    | false =>
      obtain ⟨result, hresult, houtcome⟩ :=
        hdelivers.passed (not_overdue_of_mem hseconds hpast) _ hsucceeds
      obtain ⟨failed, after, hrun, hfailed⟩ :=
        run_of_oversized hprocedure hseconds hpast hlarge clock data stage
      rw [hrun] at hresult
      cases hresult
      rw [hfailed] at houtcome
      cases houtcome

end Run

/-- **A missed deadline is told from a failure.** Whatever a guarded step does, its run delivers exactly
when it does not hang with nothing to end that; and so it is for all guarded steps exactly when the
deadline is not beyond all times. -/
theorem delivers_unless_hanging_iff_withinReach (deadlines : Deadlines) (step : Step) :
    (∀ (σ : Type) (executor : Executor σ) guarded (clock : σ → Instant) (data : Data)
        (stage : Stage σ), executor.procedure = .guarded guarded →
        (executor.Delivers guarded clock deadlines step data stage ↔
          ¬ executor.HangsOpenly deadlines step data stage)) ↔
      WithinReach (deadlines.effective step) := by
  constructor
  · intro hdelivers
    have hprocedure : ((StandIn.returns .null).executor .condition "" : Executor Unit).procedure
        = .guarded fun _ _ _ => pure (.success (.value .null)) := rfl
    have hends : ¬ ((StandIn.returns .null).executor .condition "" : Executor Unit).HangsOpenly
        deadlines step [] (.start ()) := by
      rintro ⟨-, hhung⟩
      cases hhung
    exact withinReach_of_delivers hprocedure rfl
      ((hdelivers Unit _ _ (fun _ => default) [] (.start ()) hprocedure).mpr hends)
  · intro hreach σ executor guarded clock data stage hprocedure
    constructor
    · intro hdelivers hopen
      obtain ⟨result, hresult, -⟩ := hdelivers.returns
      rw [run_of_hangsOpenly hprocedure hopen] at hresult
      cases hresult
    · exact delivers_of_withinReach hprocedure hreach

end Executor

namespace Sample

/-- Five seconds for every step. -/
def brief : Deadlines where
  enforced := true
  default := some (.int 5)

theorem hanging_told_from_timing_out :
    WithinReach (brief.effective (check "only" [])) ∧
      Executor.EndsWith ((StandIn.hangs.executor .condition "" : Executor Unit).run
          (fun _ => default) brief (check "only" []) [] (.start ()))
        (.failure (some "Step timed out after 5s")) ∧
      Executor.EndsWith (((StandIn.raises (.timedOut "")).executor .condition "" : Executor Unit).run
          (fun _ => default) brief (check "only" []) [] (.start ()))
        (.failure (some "TimeoutError")) := by
  have heffective : .int 5 ∈ binding? (brief.effective (check "only" [])) := by decide
  have hdeadline : ∀ seconds ∈ binding? (brief.effective (check "only" [])), seconds = .int 5 :=
    fun seconds hseconds => Option.mem_unique hseconds heffective
  have hreach : WithinReach (brief.effective (check "only" [])) := by
    intro seconds hseconds
    rw [hdeadline seconds hseconds]
    decide +kernel
  have hpunctual : ¬ Overdue (brief.effective (check "only" [])) :=
    not_overdue_of_mem heffective (by decide)
  have hlimited : ¬ Unlimited (brief.effective (check "only" [])) := by
    intro hopen
    cases hopen _ heffective
  refine ⟨hreach, ?_, ?_⟩
  · have hdelivers := (Executor.delivers_unless_hanging_iff_withinReach brief (check "only" [])).mpr
      hreach Unit (StandIn.hangs.executor .condition "") _ (fun _ => default) [] (.start ()) rfl
    obtain ⟨seconds, hseconds, hended⟩ :=
      (hdelivers.mpr (fun hopen => hlimited hopen.1)).givenUp hpunctual rfl
    rw [hdeadline seconds hseconds] at hended
    have htext : timedOutText (.int 5) = "Step timed out after 5s" := by decide +kernel
    exact htext ▸ hended
  · have hdelivers := (Executor.delivers_unless_hanging_iff_withinReach brief (check "only" [])).mpr
      hreach Unit ((StandIn.raises (.timedOut "")).executor .condition "") _ (fun _ => default) []
      (.start ()) rfl
    exact (hdelivers.mpr (fun hopen => hlimited hopen.1)).told hpunctual _ rfl

/-- A deadline for every step that is long past. -/
def overdue : Deadlines where
  enforced := true
  default := some (.int (-Double.powerOfTen 400))

theorem overdue_check_escapes :
    ¬ (Executor.standard collaborators .condition).HangsOpenly overdue (check "only" []) []
        (.start ()) ∧
      ((Executor.standard collaborators .condition).run (fun _ => default) overdue
        (check "only" []) [] (.start ())).1 = .raised Executor.oversized ∧
      ¬ (Executor.standard collaborators .condition).Delivers (Executor.execute collaborators)
        (fun _ => default) overdue (check "only" []) [] (.start ()) := by
  have hprocedure := Executor.procedure_standard collaborators .condition
  have hunspeakable : UnspeakableDeadline (overdue.effective (check "only" [])) :=
    ⟨.int (-Double.powerOfTen 400), by decide +kernel⟩
  have hrun := Executor.run_of_unspeakable hprocedure hunspeakable (fun _ => default) [] (.start ())
  refine ⟨Executor.not_hangsOpenly_standard _ _ collaborators_responsive _ _ _, hrun, ?_⟩
  intro hdelivers
  obtain ⟨result, hresult, -⟩ := hdelivers.returns
  rw [hrun] at hresult
  cases hresult

end Sample

end Runbook
