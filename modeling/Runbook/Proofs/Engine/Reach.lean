import Runbook.Proofs.Engine.Loading
import Runbook.Proofs.Engine.Step
import Runbook.Proofs.Record

/-!
# The points that a run comes to

`Reaches` relates the start of a run over some steps to each point between two of its steps: what is
left to take there, and the record, data, stage and sink as they are then. A property that each step
keeps holds at every point, and a whole run either reaches its end or stops at the step it cannot get
past. At every point the record accounts for exactly the steps taken.
-/

namespace Runbook.Engine

variable {σ τ : Type} {engine : Engine σ τ}

/-! ### Runs over steps -/

/-- From one point of a run over some steps to another, with what is left to take there. -/
inductive Reaches (engine : Engine σ τ) :
    List Step → Progress σ τ → List Step → Progress σ τ → Prop where
  | refl (steps : List Step) (progress : Progress σ τ) : Reaches engine steps progress steps progress
  | step {step : Step} {steps rest : List Step} {progress next last : Progress σ τ}
      (htaken : engine.takeStep step progress = .continued next)
      (hrest : Reaches engine steps next rest last) :
      Reaches engine (step :: steps) progress rest last

variable {steps rest : List Step} {progress last : Progress σ τ}

theorem Reaches.keeps (P : List Step → Progress σ τ → Prop)
    (h : engine.Reaches steps progress rest last)
    (hstep : ∀ step rest progress next, P (step :: rest) progress →
      engine.takeStep step progress = .continued next → P rest next)
    (hstart : P steps progress) : P rest last := by
  induction h with
  | refl => exact hstart
  | step htaken _ ih => exact ih (hstep _ _ _ _ hstart htaken)

/-- A step is left to take, or was come to and let the run go on. -/
theorem Reaches.left_or_taken (h : engine.Reaches steps progress rest last) {step : Step}
    (hstep : step ∈ steps) :
    step ∈ rest ∨ ∃ later point next, engine.Reaches steps progress (step :: later) point ∧
      engine.takeStep step point = .continued next := by
  induction h with
  | refl => exact Or.inl hstep
  | @step first steps rest _ _ _ htaken _ ih =>
    rcases List.mem_cons.mp hstep with rfl | hsteps
    · exact Or.inr ⟨steps, _, _, .refl _ _, htaken⟩
    · refine (ih hsteps).imp_right ?_
      rintro ⟨later, point, next, hreach, hnext⟩
      exact ⟨later, point, next, .step htaken hreach, hnext⟩

theorem Reaches.suffix (h : engine.Reaches steps progress rest last) : rest <:+ steps := by
  induction h with
  | refl => exact List.suffix_refl _
  | step _ _ ih => exact ih.trans (List.suffix_cons _ _)

/-- Results stay in the record, in their places. -/
theorem Reaches.results_prefix (h : engine.Reaches steps progress rest last) :
    progress.record.results <+: last.record.results := by
  induction h with
  | refl => exact List.prefix_refl _
  | step htaken _ ih =>
    obtain ⟨result, after, record, -, hfiled, rfl⟩ := takeStep_eq_continued htaken
    rw [record_recordStep, (Record.eq_of_addResult hfiled).2] at ih
    exact (List.prefix_append _ _).trans ih

/-- A run reaches its end, or a step that does not let it go on. -/
theorem exists_reaches (engine : Engine σ τ) (steps : List Step) (progress : Progress σ τ) :
    (∃ last, engine.Reaches steps progress [] last ∧
        engine.takeSteps steps progress = .continued last) ∨
      ∃ step rest last, engine.Reaches steps progress (step :: rest) last ∧
        engine.takeSteps steps progress = engine.takeStep step last ∧
        ∀ next, engine.takeStep step last ≠ .continued next := by
  induction steps generalizing progress with
  | nil => exact Or.inl ⟨progress, .refl _ _, rfl⟩
  | cons step steps ih =>
    cases htaken : engine.takeStep step progress with
    | continued next =>
      have hnext : engine.takeSteps (step :: steps) progress = engine.takeSteps steps next := by
        simp [takeSteps, htaken]
      rw [hnext]
      rcases ih next with ⟨last, hreach, hend⟩ | ⟨stuck, rest, last, hreach, hend, hstuck⟩
      · exact Or.inl ⟨last, .step htaken hreach, hend⟩
      · exact Or.inr ⟨stuck, rest, last, .step htaken hreach, hend, hstuck⟩
    | faulted fault next | escaped failure next | stalled next =>
      refine Or.inr ⟨step, steps, progress, .refl _ _, ?_, ?_⟩
      · simp [takeSteps, htaken]
      · simp [htaken]

/-! ### The run of a request -/

section Request

variable (engine) (id : String) (request : RunRequest) (stage : Stage σ) (sink : τ)

def greeted (request : RunRequest) (stage : Stage σ) : Stage σ :=
  stage.note .info "Workflow run starting" [("trigger", .string request.trigger.name)]

/-- A run over some steps as it is before the first of them. -/
def opening (order : List Step) : Progress σ τ where
  record :=
    { Record.begin id request.workflowId request.userId request.trigger request.metadata
        (engine.clock stage.world) with
      totalSteps := order.length
      status := .running }
  data := request.initialData
  stage := engine.lookedUp request.workflowId (greeted request stage)
  sink := sink

/-- The workflow loads, and its run takes these steps in this order. -/
def RunsOver (order : List Step) : Prop :=
  ∃ definition, engine.Loads request.workflowId stage.world definition ∧
    Schedule.order definition.steps engine.byDependency = .ok order

/-- The points of the run of a request, each with the steps that are left there. -/
def ComesTo (rest : List Step) (progress : Progress σ τ) : Prop :=
  ∃ order, engine.RunsOver request stage order ∧
    engine.Reaches order (engine.opening id request stage sink order) rest progress

/-- The run of a request hangs, in the lookup or in a step, with nothing to end that. -/
def HangsOpenly : Prop :=
  (engine.lookup request.workflowId stage.world).1 = .hung ∨
    ∃ step rest progress executor, engine.ComesTo id request stage sink (step :: rest) progress ∧
      engine.registry.find? step.type = some executor ∧
      executor.HangsOpenly engine.registry.deadlines step progress.data
        (warnPending progress.stage progress.record step)

variable {engine} {id} {request} {stage} {sink} {order : List Step}

theorem run_of_accept {submission : Submission} (haccept : submission.accept = .ok request)
    (id : String) (stage : Stage σ) (sink : τ) :
    engine.run id submission stage sink = engine.execute id request stage sink := by
  rw [run, haccept]

theorem RunsOver.nodup_ids (hparsed : engine.LooksUpParsed) (h : engine.RunsOver request stage order) :
    (order.map (·.id)).Nodup := by
  obtain ⟨definition, hloads, horder⟩ := h
  have hids := (hparsed _ _ _ hloads.1).nodup_ids
  exact ((Schedule.order_perm horder).map (·.id)).nodup_iff.mpr hids

theorem exists_runsOver (hparsed : engine.LooksUpParsed) {definition : Definition}
    (h : engine.Loads request.workflowId stage.world definition) :
    ∃ order, engine.RunsOver request stage order := by
  obtain ⟨order, horder⟩ :=
    Schedule.exists_order (hparsed _ _ _ h.1).nodup_ids h.2 engine.byDependency
  exact ⟨order, definition, h, horder⟩

theorem RunsOver.respects (hordered : engine.byDependency = true)
    (h : engine.RunsOver request stage order) : Schedule.Respects [] order := by
  obtain ⟨definition, -, horder⟩ := h
  rw [hordered] at horder
  exact (Schedule.orderFrom_eq_some (Schedule.order_eq_ok_iff.mp horder)).2

theorem RunsOver.unique {other : List Step} (h : engine.RunsOver request stage order)
    (hother : engine.RunsOver request stage other) : other = order := by
  obtain ⟨definition, hloads, horder⟩ := h
  obtain ⟨found, hfound, hordered⟩ := hother
  obtain rfl : found = definition := by simpa [hfound.1] using hloads.1
  exact Except.ok.inj (hordered.symm.trans horder)

theorem execute_of_runsOver (h : engine.RunsOver request stage order) :
    engine.execute id request stage sink
      = engine.conclude (engine.takeSteps order (engine.opening id request stage sink order)) := by
  obtain ⟨definition, hloads, horder⟩ := h
  have hload : engine.load request.workflowId (greeted request stage)
      = (.answered (.ok definition), engine.lookedUp request.workflowId (greeted request stage)) :=
    load_of_loads hloads
  simp only [greeted] at hload
  simp only [execute, hload, runSteps, horder]
  rfl

/-- At every point the record accounts for the steps taken. -/
theorem Reaches.accounts (hids : (order.map (·.id)).Nodup)
    (h : engine.Reaches order (engine.opening id request stage sink order) rest last) :
    ∃ taken, taken ++ rest = order ∧ last.record.Accounts taken rest := by
  refine h.keeps (fun rest progress =>
    ∃ taken, taken ++ rest = order ∧ progress.record.Accounts taken rest) ?_ ?_
  · rintro step rest progress next ⟨taken, hsplit, haccounts⟩ htaken
    obtain ⟨result, after, record, -, hfiled, rfl⟩ := takeStep_eq_continued htaken
    rw [haccounts.addResult (by rwa [hsplit]) result] at hfiled
    obtain rfl := Except.ok.inj hfiled
    exact ⟨taken ++ [step], by simpa using hsplit, by simpa using haccounts.filed⟩
  · exact ⟨[], rfl, ⟨rfl, rfl, rfl⟩⟩

end Request

end Runbook.Engine
