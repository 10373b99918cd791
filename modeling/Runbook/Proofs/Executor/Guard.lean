import Runbook.Executor

/-!
# What a guarded execution comes to

`Attempt` lists the ways in which a step under a deadline can go: it answers, it raises and is settled
as a failure, its deadline leaves nothing to start, it hangs and is given up, or it hangs for good. Only
one way lets a failure out: a deadline that has passed already and is too far away to be put into words.
Everything said about guarded steps elsewhere is read off this list.
-/

namespace Runbook

/-- A deadline that has passed before the step starts, and that no floating-point number is near to, so
that even the words for a missed deadline fail. -/
def UnspeakableDeadline (deadline : Option Number) : Prop :=
  ∃ seconds ∈ binding? deadline, seconds.isNonPositive = true ∧ seconds.isOversized = true

/-- Nothing ever ends a call that hangs: there is no deadline, or an endless one. -/
def Unlimited (deadline : Option Number) : Prop :=
  ∀ seconds ∈ binding? deadline, seconds.isEndless = true

namespace Executor

/-- The deadline of a step lets it start: it is not past, and not beyond all times. -/
def LetsStart (deadline : Option Number) : Prop :=
  ∀ seconds ∈ binding? deadline, seconds.isNonPositive = false ∧ seconds.isOversized = false

variable {σ : Type} {step : Step} {deadline : Option Number} {execute : Interaction σ Outcome}
  {stage : Stage σ}

/-- The ways a step can go under a deadline, each with the reply and the stage it leaves. -/
inductive Attempt (deadline : Option Number) (execute : Interaction σ Outcome) (stage : Stage σ) :
    Reply Outcome → Stage σ → Prop where
  | answered {outcome : Outcome} {after : Stage σ} (h : execute stage = (.answered outcome, after)) :
      Attempt deadline execute stage (.answered outcome) after
  | failed {failure : Failure} {after : Stage σ} {log : List LogEntry}
      (h : execute stage = (.raised failure, after)) :
      Attempt deadline execute stage (.answered (.failure (some (stepFailure failure).text)))
        { after with log }
  | unstartable {seconds : Number} {log : List LogEntry} (h : seconds ∈ binding? deadline)
      (hlarge : seconds.isOversized = true) :
      Attempt deadline execute stage (.answered (.failure (some oversized.text))) { stage with log }
  | missed {seconds : Number} (h : seconds ∈ binding? deadline)
      (hpast : seconds.isNonPositive = true) :
      Attempt deadline execute stage (.answered (.failure (some (timedOutText seconds)))) stage
  | givenUp {seconds : Number} {after : Stage σ} (h : seconds ∈ binding? deadline)
      (hhung : execute stage = (.hung, after)) :
      Attempt deadline execute stage (.answered (.failure (some (timedOutText seconds)))) after
  | stalled {after : Stage σ} (hopen : Unlimited deadline)
      (hhung : execute stage = (.hung, after)) : Attempt deadline execute stage .hung after
  | wordless (h : UnspeakableDeadline deadline) :
      Attempt deadline execute stage (.raised oversized) stage

theorem attempt_settle (hopen : binding? deadline = none) :
    Attempt deadline execute stage (settle step (execute stage)).1 (settle step (execute stage)).2 := by
  rcases hexecute : execute stage with ⟨_ | _ | _, after⟩
  · exact .answered hexecute
  · exact .failed hexecute
  · exact .stalled (by simp [Unlimited, hopen]) hexecute

theorem attempt_underDeadline (step : Step) (deadline : Option Number)
    (execute : Interaction σ Outcome) (stage : Stage σ) :
    Attempt deadline execute stage (underDeadline step deadline execute stage).1
      (underDeadline step deadline execute stage).2 := by
  unfold underDeadline
  cases hdeadline : binding? deadline with
  | none => exact attempt_settle hdeadline
  | some seconds =>
    -- Two checks come before the start; a deadline that passes both is there to be kept.
    by_cases hpast : seconds.isNonPositive = true
    · by_cases hlarge : seconds.isOversized = true
      · simp only [hpast, hlarge, if_true]
        exact .wordless ⟨seconds, hdeadline, hpast, hlarge⟩
      · simp only [hpast, hlarge, if_true]
        exact .missed hdeadline hpast
    · by_cases hlarge : seconds.isOversized = true
      · simp only [hpast, hlarge, if_true]
        exact .unstartable hdeadline hlarge
      · simp only [hpast, hlarge]
        rcases hexecute : execute stage with ⟨_ | _ | _, after⟩
        · exact .answered hexecute
        · exact .failed hexecute
        · by_cases hendless : seconds.isEndless = true
          · simp only [settle, hendless, if_true]
            refine .stalled ?_ hexecute
            intro other hother
            obtain rfl : seconds = other := by simpa [hdeadline] using hother
            exact hendless
          · simp only [settle, hendless]
            exact .givenUp hdeadline hexecute

theorem Attempt.unspeakable {failure : Failure} {after : Stage σ}
    (h : Attempt deadline execute stage (.raised failure) after) : UnspeakableDeadline deadline := by
  cases h with
  | wordless h => exact h

theorem Attempt.hung {after : Stage σ} (h : Attempt deadline execute stage .hung after) :
    Unlimited deadline ∧ (execute stage).1 = .hung := by
  cases h with
  | stalled hopen hhung => exact ⟨hopen, by rw [hhung]⟩

theorem Attempt.execute_eq_of_success {d : Datum} {after : Stage σ}
    (h : Attempt deadline execute stage (.answered (.success d)) after) :
    execute stage = (.answered (.success d), after) := by
  cases h with
  | answered h => exact h

/-- A step that its deadline lets start is settled, unless it hangs and is given up. -/
theorem Attempt.reply_of_letsStart {reply : Reply Outcome} {after : Stage σ}
    (h : Attempt deadline execute stage reply after) (hstarts : LetsStart deadline) (step : Step) :
    reply = (settle step (execute stage)).1 ∨
      (execute stage).1 = .hung ∧
        ∃ seconds ∈ binding? deadline,
          reply = .answered (.failure (some (timedOutText seconds))) := by
  cases h with
  | answered h => exact Or.inl (by rw [h]; rfl)
  | failed h => exact Or.inl (by rw [h]; rfl)
  | unstartable h hlarge =>
    rw [(hstarts _ h).2] at hlarge
    cases hlarge
  | missed h hpast =>
    rw [(hstarts _ h).1] at hpast
    cases hpast
  | givenUp h hhung => exact Or.inr ⟨by rw [hhung], _, h, rfl⟩
  | stalled _ hhung => exact Or.inl (by rw [hhung]; rfl)
  | wordless h =>
    obtain ⟨seconds, h, hpast, -⟩ := h
    rw [(hstarts _ h).1] at hpast
    cases hpast

theorem Attempt.calls {reply : Reply Outcome} {after : Stage σ}
    (h : Attempt deadline execute stage reply after) :
    after.calls = stage.calls ∨ after.calls = (execute stage).2.calls := by
  cases h with
  | answered h => exact Or.inr (by rw [h])
  | failed h => exact Or.inr (by rw [h])
  | unstartable => exact Or.inl rfl
  | missed => exact Or.inl rfl
  | givenUp _ hhung => exact Or.inr (by rw [hhung])
  | stalled _ hhung => exact Or.inr (by rw [hhung])
  | wordless => exact Or.inl rfl

/-! ### Runs of executors -/

section Run

variable {clock : σ → Instant} {deadlines : Deadlines} {executor : Executor σ} {data : Data}

/-- The stage on which a guarded step is executed: its start is logged. -/
def announced (step : Step) (deadline : Option Number) (stage : Stage σ) : Stage σ :=
  stage.note .info "Step starting" [
    ("step_id", .string step.id), ("step_type", .string step.type.name),
    ("timeout", optionalNumber deadline)]

/-- An attempt as the caller of the step gets it: timed, and its end logged. -/
def reported (clock : σ → Instant) (step : Step) (start : Instant) :
    Reply Outcome × Stage σ → Reply Returned × Stage σ
  | (.answered outcome, stage) =>
    (.answered (.result
        { outcome, executionTimeMs := start.millisecondsUntil (clock stage.world) }),
      stage.note (if outcome.isSuccess then .info else .warning) "Step finished" [
        ("step_id", .string step.id), ("step_type", .string step.type.name),
        ("success", .bool outcome.isSuccess), ("error", .optionalText outcome.error?),
        ("duration_ms", .int (start.millisecondsUntil (clock stage.world)))])
  | (.raised failure, stage) => (.raised failure, stage)
  | (.hung, stage) => (.hung, stage)

variable {guarded : Step → Data → Option Number → Interaction σ Outcome}

theorem run_of_guarded (hprocedure : executor.procedure = .guarded guarded)
    (clock : σ → Instant) (deadlines : Deadlines) (step : Step) (data : Data) (stage : Stage σ) :
    executor.run clock deadlines step data stage
      = reported clock step (clock stage.world)
          (underDeadline step (deadlines.effective step)
            (guarded step data (deadlines.effective step))
            (announced step (deadlines.effective step) stage)) := by
  rw [Executor.run, hprocedure]
  simp only [Dialogue.bind_apply, guard, announced]
  rcases underDeadline step (deadlines.effective step)
    (guarded step data (deadlines.effective step)) _ with ⟨_ | _ | _, finished⟩ <;> rfl

/-- A run of a guarded executor reports one attempt, made on the announced stage. -/
theorem exists_attempt_of_guarded (hprocedure : executor.procedure = .guarded guarded)
    (clock : σ → Instant) (deadlines : Deadlines) (step : Step) (data : Data) (stage : Stage σ) :
    ∃ reply finished,
      Attempt (deadlines.effective step) (guarded step data (deadlines.effective step))
          (announced step (deadlines.effective step) stage) reply finished ∧
        executor.run clock deadlines step data stage
          = reported clock step (clock stage.world) (reply, finished) := by
  refine ⟨_, _, attempt_underDeadline step (deadlines.effective step)
    (guarded step data (deadlines.effective step))
    (announced step (deadlines.effective step) stage), ?_⟩
  rw [run_of_guarded hprocedure]

theorem attempt_of_run_answered (hprocedure : executor.procedure = .guarded guarded)
    {returned : Returned} {after : Stage σ}
    (hrun : executor.run clock deadlines step data stage = (.answered returned, after)) :
    ∃ result finished, returned = .result result ∧ after.calls = finished.calls ∧
      Attempt (deadlines.effective step) (guarded step data (deadlines.effective step))
        (announced step (deadlines.effective step) stage) (.answered result.outcome) finished := by
  obtain ⟨reply, finished, hattempt, hreported⟩ :=
    exists_attempt_of_guarded hprocedure clock deadlines step data stage
  rw [hrun] at hreported
  cases reply with
  | answered outcome =>
    obtain ⟨hreturned, rfl⟩ := Prod.mk.inj hreported
    exact ⟨_, finished, Reply.answered.inj hreturned, rfl, hattempt⟩
  | raised failure => cases hreported
  | hung => cases hreported

theorem unspeakable_of_run_raised (hprocedure : executor.procedure = .guarded guarded)
    {failure : Failure} {after : Stage σ}
    (hrun : executor.run clock deadlines step data stage = (.raised failure, after)) :
    UnspeakableDeadline (deadlines.effective step) := by
  obtain ⟨reply, finished, hattempt, hreported⟩ :=
    exists_attempt_of_guarded hprocedure clock deadlines step data stage
  rw [hrun] at hreported
  cases reply with
  | answered outcome => cases hreported
  | raised failure => exact hattempt.unspeakable
  | hung => cases hreported

theorem run_of_unspeakable (hprocedure : executor.procedure = .guarded guarded)
    (h : UnspeakableDeadline (deadlines.effective step)) (clock : σ → Instant) (data : Data)
    (stage : Stage σ) : (executor.run clock deadlines step data stage).1 = .raised oversized := by
  obtain ⟨seconds, hdeadline, hpast, hlarge⟩ := h
  rw [Option.mem_def] at hdeadline
  rw [Executor.run, hprocedure]
  simp [Dialogue.bind_apply, guard, underDeadline, hdeadline, hpast, hlarge]

/-- A guarded step with a deadline beyond all times fails, and has not been started. -/
theorem run_of_oversized (hprocedure : executor.procedure = .guarded guarded) {seconds : Number}
    (hdeadline : seconds ∈ binding? (deadlines.effective step))
    (hpositive : seconds.isNonPositive = false) (hlarge : seconds.isOversized = true)
    (clock : σ → Instant) (data : Data) (stage : Stage σ) :
    ∃ result after,
      executor.run clock deadlines step data stage = (.answered (.result result), after) ∧
        result.outcome = .failure (some oversized.text) := by
  rw [Option.mem_def] at hdeadline
  have hunder : ∃ after, underDeadline step (deadlines.effective step)
      (guarded step data (deadlines.effective step))
      (announced step (deadlines.effective step) stage)
        = (.answered (.failure (some oversized.text)), after) := by
    simp only [underDeadline, hdeadline, hpositive, hlarge]
    exact ⟨_, rfl⟩
  obtain ⟨after, hunder⟩ := hunder
  rw [run_of_guarded hprocedure, hunder]
  exact ⟨_, _, rfl, rfl⟩

theorem calls_of_guarded (hprocedure : executor.procedure = .guarded guarded)
    (clock : σ → Instant) (deadlines : Deadlines) (step : Step) (data : Data) (stage : Stage σ) :
    (executor.run clock deadlines step data stage).2.calls = stage.calls ∨
      (executor.run clock deadlines step data stage).2.calls
        = (guarded step data (deadlines.effective step)
            (announced step (deadlines.effective step) stage)).2.calls := by
  obtain ⟨reply, finished, hattempt, hreported⟩ :=
    exists_attempt_of_guarded hprocedure clock deadlines step data stage
  rw [hreported]
  cases reply <;> exact hattempt.calls

/-- Whether a run hangs with nothing to end that. -/
def HangsOpenly (executor : Executor σ) (deadlines : Deadlines) (step : Step) (data : Data)
    (stage : Stage σ) : Prop :=
  match executor.procedure with
  | .guarded execute =>
    Unlimited (deadlines.effective step) ∧
      (execute step data (deadlines.effective step)
        (announced step (deadlines.effective step) stage)).1 = .hung
  | .bare run => (run step data stage).1 = .hung

theorem hangsOpenly_of_run_hung {after : Stage σ}
    (hrun : executor.run clock deadlines step data stage = (.hung, after)) :
    executor.HangsOpenly deadlines step data stage := by
  unfold HangsOpenly
  split
  · next hprocedure =>
    obtain ⟨reply, finished, hattempt, hreported⟩ :=
      exists_attempt_of_guarded hprocedure clock deadlines step data stage
    rw [hrun] at hreported
    cases reply with
    | answered outcome => cases hreported
    | raised failure => cases hreported
    | hung => exact hattempt.hung
  · next run hprocedure =>
    have hbare : executor.run clock deadlines step data stage = run step data stage := by
      simp only [Executor.run, hprocedure]
    rw [← hbare, hrun]

end Run

end Executor

end Runbook
