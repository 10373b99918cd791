import Runbook.Proofs.Engine.Ending
import Runbook.Proofs.Executor.Deadline

/-!
# Failed steps

With the standard executors a step that fails has a result like any other, which says why, and the run
goes on. There is one way for a step to end a run nevertheless: a deadline that has passed already and is
too large for the words of a missed deadline.
-/

namespace Runbook

namespace Engine

variable {σ τ : Type} {engine : Engine σ τ}

/-! ### One step -/

section Step

variable (hstandard : engine.registry.IsStandard) {step : Step}
include hstandard

theorem unspeakable_of_invoke_error {record : Record} {data : Data} {stage after : Stage σ}
    {fault : EngineFault}
    (h : engine.invoke record data step stage = (.answered (.error fault), after)) :
    UnspeakableDeadline (engine.registry.deadlines.effective step) := by
  obtain ⟨collaborators, hfound⟩ := hstandard step.type
  have hprocedure := Executor.procedure_standard collaborators step.type
  rcases run_of_invoke_error hfound h with ⟨kind, hrun⟩ | ⟨failure, hrun⟩
  · obtain ⟨result, finished, hresult, -⟩ := Executor.attempt_of_run_answered hprocedure hrun
    cases hresult
  · exact Executor.unspeakable_of_run_raised hprocedure hrun

theorem not_unspeakable_of_takeStep {progress next : Progress σ τ}
    (htaken : engine.takeStep step progress = .continued next) :
    ¬ UnspeakableDeadline (engine.registry.deadlines.effective step) := by
  intro hunspeakable
  obtain ⟨result, after, record, hinvoke, -⟩ := takeStep_eq_continued htaken
  obtain ⟨collaborators, hfound⟩ := hstandard step.type
  have hrun := run_of_invoke_ok hfound hinvoke
  have hraised := Executor.run_of_unspeakable (Executor.procedure_standard collaborators step.type)
    hunspeakable engine.clock progress.data (warnPending progress.stage progress.record step)
  rw [hrun] at hraised
  cases hraised

theorem Reaches.telling {steps rest : List Step} {progress last : Progress σ τ}
    (h : engine.Reaches steps progress rest last)
    (hstart : ∀ entry ∈ progress.record.results, entry.2.outcome.Telling) :
    ∀ entry ∈ last.record.results, entry.2.outcome.Telling := by
  refine h.keeps (fun _ progress => ∀ entry ∈ progress.record.results, entry.2.outcome.Telling)
    ?_ hstart
  intro step rest progress next htelling htaken entry hentry
  obtain ⟨result, after, record, hinvoke, hfiled, rfl⟩ := takeStep_eq_continued htaken
  rw [record_recordStep] at hentry
  rcases Record.mem_results_of_addResult hfiled hentry with rfl | hbefore
  · obtain ⟨collaborators, hfound⟩ := hstandard step.type
    exact Executor.telling_of_run_standard step progress.data (run_of_invoke_ok hfound hinvoke)
  · exact htelling entry hbefore

end Step

/-! ### Whole runs -/

/-- A run that took all of its steps, with a result for each that tells why if it is a failure. -/
def RunsThrough (engine : Engine σ τ) (id : String) (request : RunRequest) (stage : Stage σ)
    (sink : τ) : Prop :=
  ∃ record data order, (engine.execute id request stage sink).ending = .finished record data ∧
    engine.RunsOver request stage order ∧ record.Complete order ∧
    ∀ entry ∈ record.results, entry.2.outcome.Telling

variable {id : String} {request : RunRequest} {stage : Stage σ} {sink : τ}

theorem mem_of_runsOver {order : List Step} {definition : Definition}
    (hruns : engine.RunsOver request stage order)
    (hloads : engine.Loads request.workflowId stage.world definition) {step : Step} :
    step ∈ order ↔ step ∈ definition.steps := by
  obtain ⟨found, hfound, horder⟩ := hruns
  obtain rfl : found = definition := by simpa [hfound.1] using hloads.1
  exact (Schedule.order_perm horder).mem_iff

theorem not_unspeakable_of_completed (hstandard : engine.registry.IsStandard)
    (hparsed : engine.LooksUpParsed) {definition : Definition}
    (hloads : engine.Loads request.workflowId stage.world definition)
    (hends : ¬ engine.HangsOpenly id request stage sink) {record : Record} {data : Data}
    (hending : (engine.execute id request stage sink).ending = .finished record data)
    (hstatus : record.status ≠ .failed) :
    ∀ step ∈ definition.steps,
      ¬ UnspeakableDeadline (engine.registry.deadlines.effective step) := by
  obtain ⟨order, hruns⟩ : ∃ order, engine.RunsOver request stage order :=
    exists_runsOver hparsed hloads
  intro step hstep
  rcases ending_of_runsOver hparsed hruns hends with
    ⟨last, hreach, -⟩ | ⟨faulty, rest, last, fault, after, -, -, hfaulted⟩
  · rcases hreach.left_or_taken ((mem_of_runsOver hruns hloads).mpr hstep) with
      hleft | ⟨later, point, next, -, htaken⟩
    · cases hleft
    · exact not_unspeakable_of_takeStep hstandard htaken
  · -- The record of a run that was given up says so.
    obtain ⟨rfl, -⟩ := Ending.finished.inj (hending.symm.trans hfaulted)
    exact absurd rfl hstatus

theorem not_unspeakable_of_runsThrough (hstandard : engine.registry.IsStandard)
    (hparsed : engine.LooksUpParsed) {definition : Definition}
    (hloads : engine.Loads request.workflowId stage.world definition)
    (hends : ¬ engine.HangsOpenly id request stage sink)
    (hthrough : engine.RunsThrough id request stage sink) :
    ∀ step ∈ definition.steps,
      ¬ UnspeakableDeadline (engine.registry.deadlines.effective step) := by
  obtain ⟨record, data, order, hending, -, hcomplete, -⟩ := hthrough
  exact not_unspeakable_of_completed hstandard hparsed hloads hends hending
    hcomplete.status_ne_failed

/-- Without such a deadline a run takes every step. -/
theorem exists_last_of_not_unspeakable (hstandard : engine.registry.IsStandard)
    (hparsed : engine.LooksUpParsed) {order : List Step}
    (hruns : engine.RunsOver request stage order)
    (hspeakable : ∀ step ∈ order,
      ¬ UnspeakableDeadline (engine.registry.deadlines.effective step))
    (hends : ¬ engine.HangsOpenly id request stage sink) :
    ∃ last, engine.Reaches order (engine.opening id request stage sink order) [] last ∧
      engine.execute id request stage sink = engine.conclude (.continued last) := by
  obtain ⟨left, last, course, hreach, hstops, htaken⟩ :=
    Reaches.exists_stop (hruns.nodup_ids hparsed)
      (.refl order (engine.opening id request stage sink order))
  rw [execute_of_runsOver hruns, htaken]
  cases hstops with
  | done => exact ⟨last, hreach, rfl⟩
  | faulted hinvoke =>
    have hstep := hreach.suffix.subset List.mem_cons_self
    exact absurd (unspeakable_of_invoke_error hstandard hinvoke) (hspeakable _ hstep)
  | stalled hinvoke =>
    obtain ⟨executor, hfound, hhangs⟩ := hangsOpenly_of_invoke_hung (by rw [hinvoke])
    exact absurd (Or.inr ⟨_, _, last, executor, ⟨order, hruns, hreach⟩, hfound, hhangs⟩) hends

theorem runsThrough_of_not_unspeakable (hstandard : engine.registry.IsStandard)
    (hparsed : engine.LooksUpParsed) {definition : Definition}
    (hloads : engine.Loads request.workflowId stage.world definition)
    (hends : ¬ engine.HangsOpenly id request stage sink)
    (hspeakable : ∀ step ∈ definition.steps,
      ¬ UnspeakableDeadline (engine.registry.deadlines.effective step)) :
    engine.RunsThrough id request stage sink := by
  obtain ⟨order, hruns⟩ : ∃ order, engine.RunsOver request stage order :=
    exists_runsOver hparsed hloads
  obtain ⟨last, hreach, hexecute⟩ := exists_last_of_not_unspeakable hstandard hparsed hruns
    (fun step hstep => hspeakable step ((mem_of_runsOver hruns hloads).mp hstep)) hends
  have hending := congrArg Run.ending hexecute
  rw [ending_conclude_continued] at hending
  obtain ⟨taken, hsplit, haccounts⟩ := hreach.accounts (hruns.nodup_ids hparsed)
  rw [List.append_nil] at hsplit
  subst hsplit
  have htelling : ∀ entry ∈ last.record.results, entry.2.outcome.Telling :=
    hreach.telling hstandard (by simp [opening, Record.begin])
  exact ⟨_, _, taken, hending, hruns, haccounts.complete _, htelling⟩

/-- **Failed steps are isolated, but for one kind of deadline.** With the standard executors, whatever
their services do short of hanging with nothing to end that, a run of a workflow that loads takes every
step and has a telling result for each, exactly when no step has a deadline that has passed already and
is too large to be told. -/
theorem runsThrough_iff_not_unspeakable (hstandard : engine.registry.IsStandard)
    (hparsed : engine.LooksUpParsed) {submission : Submission}
    (haccept : submission.accept = .ok request) {definition : Definition}
    (hloads : engine.Loads request.workflowId stage.world definition)
    (hends : ¬ engine.HangsOpenly id request stage sink) :
    (∃ record data order,
        (engine.run id submission stage sink).ending = .finished record data ∧
        engine.RunsOver request stage order ∧ record.Complete order ∧
        ∀ entry ∈ record.results, entry.2.outcome.Telling) ↔
      ∀ step ∈ definition.steps,
        ¬ UnspeakableDeadline (engine.registry.deadlines.effective step) := by
  have hrun : engine.run id submission stage sink = engine.execute id request stage sink := by
    rw [run, haccept]
  rw [hrun]
  exact ⟨not_unspeakable_of_runsThrough hstandard hparsed hloads hends,
    runsThrough_of_not_unspeakable hstandard hparsed hloads hends⟩

end Engine

namespace Sample

theorem engine_loads : engine.Loads "checks" () definition := ⟨rfl, rfl⟩

theorem not_unspeakable_of_none : ¬ UnspeakableDeadline none := by
  rintro ⟨seconds, hseconds, -⟩
  cases hseconds

theorem checks_run_through :
    engine.registry.IsStandard ∧ engine.LooksUpParsed ∧ submission.accept = .ok request ∧
      engine.Loads "checks" () definition ∧ ¬ engine.HangsOpenly "run" request (.start ()) () ∧
      ∃ record data order,
        (engine.run "run" submission (.start ()) ()).ending = .finished record data ∧
        engine.RunsOver request (.start ()) order ∧ record.Complete order ∧
        ∀ entry ∈ record.results, entry.2.outcome.Telling := by
  have hstandard : engine.registry.IsStandard := Registry.isStandard_standard _ _
  have haccept : submission.accept = .ok request := by rfl
  refine ⟨hstandard, engine_looksUpParsed, haccept, engine_loads, engine_not_hangsOpenly, ?_⟩
  refine (Engine.runsThrough_iff_not_unspeakable hstandard engine_looksUpParsed haccept engine_loads
    engine_not_hangsOpenly).mpr ?_
  intro step hstep
  have heffective : engine.registry.deadlines.effective step = none := by
    have hsteps : step = check "second" ["first"] ∨ step = check "first" [] := by
      simpa [definition] using hstep
    rcases hsteps with rfl | rfl <;> rfl
  rw [heffective]
  exact not_unspeakable_of_none

def overdueEngine : Engine Unit Unit :=
  { Engine.knowing definition (.standard collaborators overdue) with byDependency := false }

theorem overdue_checks_abort :
    overdueEngine.registry.IsStandard ∧ overdueEngine.LooksUpParsed ∧
      submission.accept = .ok request ∧ overdueEngine.Loads "checks" () definition ∧
      ¬ overdueEngine.HangsOpenly "run" request (.start ()) () ∧
      (overdueEngine.run "run" submission (.start ()) ()).ending.record?.map
          (fun record => (record.status, record.error, record.stepsCompleted))
        = some (.failed,
            some "Step 'second' raised unexpectedly: int too large to convert to float", 0) := by
  refine ⟨Registry.isStandard_standard _ _, ?_, by rfl, ⟨rfl, rfl⟩, ?_, by decide +kernel⟩
  · exact Engine.looksUpParsed_knowing definition_parsed (.standard collaborators overdue)
  · exact Engine.not_hangsOpenly_of_responsive rfl collaborators_responsive
      (by simp [overdueEngine, Engine.knowing])

end Sample

end Runbook
