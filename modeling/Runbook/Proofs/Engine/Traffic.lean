import Runbook.Proofs.Engine.Reordering
import Runbook.Proofs.Executor.Calls

/-!
# The calls of a run

A run executes the first steps of its order, one after the other, and all of its calls are made in these
executions. Each of them makes one call at most, to the service that belongs to the step's type.
-/

namespace Runbook

/-- What came of executing one step: the engine's reading of the reply, and the calls made meanwhile. -/
structure Execution where
  step : Step
  reply : Reply (Except EngineFault StepResult)
  calls : List Call

/-- The result of the execution under its step, as records hold it. -/
def Execution.filed? (execution : Execution) : Option (String × StepResult) :=
  match execution.reply with
  | .answered (.ok result) => some (execution.step.id, result)
  | _ => none

structure Execution.CallsOnce (execution : Execution) : Prop where
  once : execution.calls.length ≤ 1
  kind : ∀ call ∈ execution.calls, call.type = execution.step.type
  silent : execution.step.type = .condition ∨ execution.step.type = .dataTransformation →
    execution.calls = []
  made : execution.step.type.Acts → ∀ result, execution.reply = .answered (.ok result) →
    result.outcome.isSuccess = true → execution.calls.length = 1

variable {σ τ : Type}

/-- Where a course has got to. -/
def Course.progress : Course σ τ → Progress σ τ
  | .continued progress => progress
  | .faulted _ progress => progress
  | .escaped _ progress => progress
  | .stalled progress => progress

namespace Engine

variable {engine : Engine σ τ}

/-! ### Executions -/

/-- The execution of a step at a point of a run. -/
def execution (engine : Engine σ τ) (step : Step) (point : Progress σ τ) : Execution where
  step := step
  reply := (engine.invoke point.record point.data step point.stage).1
  calls := (engine.invoke point.record point.data step point.stage).2.calls.drop
    point.stage.calls.length

/-- The executions of a run over steps, up to the one that ends it. -/
def executions (engine : Engine σ τ) : List Step → Progress σ τ → List Execution
  | [], _ => []
  | step :: rest, point => engine.execution step point ::
    match engine.takeStep step point with
    | .continued next => executions engine rest next
    | _ => []

/-- The executions of the run of a request; there are none when the workflow does not load. -/
def executed (engine : Engine σ τ) (id : String) (request : RunRequest) (stage : Stage σ)
    (sink : τ) : List Execution :=
  match engine.load request.workflowId (greeted request stage) with
  | (.answered (.ok definition), _) =>
    match Schedule.order definition.steps engine.byDependency with
    | .ok order => engine.executions order (engine.opening id request stage sink order)
    | .error _ => []
  | _ => []

section Executions

variable {steps : List Step} {point : Progress σ τ}

theorem executions_of_continued {step : Step} {rest : List Step} {next : Progress σ τ}
    (htaken : engine.takeStep step point = .continued next) :
    engine.executions (step :: rest) point
      = engine.execution step point :: engine.executions rest next := by
  simp only [executions, htaken]

theorem executions_of_stuck {step : Step} {rest : List Step}
    (hstuck : ∀ next, engine.takeStep step point ≠ .continued next) :
    engine.executions (step :: rest) point = [engine.execution step point] := by
  unfold executions
  split
  · next next htaken => exact absurd htaken (hstuck next)
  · rfl

theorem steps_executions_prefix (engine : Engine σ τ) (steps : List Step) (point : Progress σ τ) :
    (engine.executions steps point).map (·.step) <+: steps := by
  induction steps generalizing point with
  | nil => exact List.prefix_refl _
  | cons step rest ih =>
    by_cases hcontinued : ∃ next, engine.takeStep step point = .continued next
    · obtain ⟨next, htaken⟩ := hcontinued
      rw [executions_of_continued htaken, List.map_cons]
      exact (List.prefix_cons_inj step).mpr (ih next)
    · rw [executions_of_stuck (not_exists.mp hcontinued)]
      exact ⟨rest, rfl⟩

/-- The executions are those at the points that the run comes to. -/
theorem mem_executions_iff {execution : Execution} :
    execution ∈ engine.executions steps point ↔
      ∃ rest last, engine.Reaches steps point (execution.step :: rest) last ∧
        execution = engine.execution execution.step last := by
  constructor
  -- One way along the steps, the other way along the run.
  · intro hmem
    induction steps generalizing point with
    | nil => cases hmem
    | cons step rest ih =>
      by_cases hcontinued : ∃ next, engine.takeStep step point = .continued next
      · obtain ⟨next, htaken⟩ := hcontinued
        rw [executions_of_continued htaken] at hmem
        rcases List.mem_cons.mp hmem with rfl | hlater
        · exact ⟨rest, point, .refl _ _, rfl⟩
        · obtain ⟨left, last, hreach, hexecution⟩ := ih hlater
          exact ⟨left, last, .step htaken hreach, hexecution⟩
      · rw [executions_of_stuck (not_exists.mp hcontinued), List.mem_singleton] at hmem
        subst hmem
        exact ⟨rest, point, .refl _ _, rfl⟩
  · rintro ⟨rest, last, hreach, hexecution⟩
    rw [hexecution]
    generalize hleft : execution.step :: rest = left at hreach
    induction hreach with
    | refl steps progress =>
      subst hleft
      exact List.mem_cons_self
    | step htaken _ ih =>
      rw [executions_of_continued htaken]
      exact List.mem_cons_of_mem _ (ih hexecution hleft)

end Executions

/-! ### Calls -/

section Standard

variable (hstandard : engine.registry.IsStandard)
include hstandard

theorem exists_call_of_invoke (record : Record) (data : Data) (step : Step) (stage : Stage σ) :
    ∃ call, (engine.invoke record data step stage).2.calls = stage.calls ++ call.toList ∧
      Executor.MayCall step.type (∃ result,
        (engine.invoke record data step stage).1 = .answered (.ok result) ∧
          result.outcome.isSuccess = true) call := by
  obtain ⟨collaborators, hfound⟩ := hstandard step.type
  have honce : Interaction.CallsOnce _ ((Executor.standard collaborators step.type).run engine.clock
      engine.registry.deadlines step data) := Executor.callsOnce_run_standard _ _ _ _
  obtain ⟨call, hcalls, hmay⟩ := honce (warnPending stage record step)
  rw [invoke_eq_judged hfound]
  refine ⟨call, by rw [stage_judged, hcalls, calls_warnPending], hmay.mono ?_⟩
  rintro ⟨result, hreply, hsuccess⟩
  have hresult := eq_result_of_judged (Prod.ext hreply rfl)
  exact ⟨result, congrArg Prod.fst hresult, hsuccess⟩

theorem calls_execution (step : Step) (point : Progress σ τ) :
    (engine.invoke point.record point.data step point.stage).2.calls
      = point.stage.calls ++ (engine.execution step point).calls := by
  obtain ⟨call, hcalls, -⟩ :=
    exists_call_of_invoke hstandard point.record point.data step point.stage
  rw [execution, hcalls, List.drop_left]

theorem callsOnce_execution (step : Step) (point : Progress σ τ) :
    (engine.execution step point).CallsOnce := by
  obtain ⟨call, hcalls, hmay⟩ :=
    exists_call_of_invoke hstandard point.record point.data step point.stage
  have hmade : (engine.execution step point).calls = call.toList := by
    rw [execution, hcalls, List.drop_left]
  refine ⟨?_, ?_, ?_, ?_⟩
  · rw [hmade]
    cases call <;> simp
  · rw [hmade]
    exact fun made hmem => hmay.kind made (Option.mem_toList.mp hmem)
  · intro htype
    have hacts : ¬ step.type.Acts := by
      rcases htype with htype | htype <;> simp [StepType.Acts, show step.type = _ from htype]
    rw [hmade, hmay.none_of_not_acts hacts]
    rfl
  · intro hacts result hreply hsuccess
    obtain ⟨made, rfl⟩ := Option.isSome_iff_exists.mp (hmay.made hacts ⟨result, hreply, hsuccess⟩)
    rw [hmade]
    rfl

/-- What a step leaves of the calls is what its execution has made of them, however it goes on. -/
theorem calls_takeStep (step : Step) (point : Progress σ τ) :
    (engine.takeStep step point).progress.stage.calls
      = point.stage.calls ++ (engine.execution step point).calls := by
  rw [← calls_execution hstandard]
  unfold takeStep
  rcases engine.invoke point.record point.data step point.stage with
    ⟨(fault | result) | failure | _, after⟩
  · rfl
  · dsimp only
    split
    · exact calls_recordStep engine step result _
    · rfl
  · rfl
  · rfl

theorem calls_takeSteps (steps : List Step) (point : Progress σ τ) :
    (engine.takeSteps steps point).progress.stage.calls
      = point.stage.calls ++ (engine.executions steps point).flatMap (·.calls) := by
  induction steps generalizing point with
  | nil => exact (List.append_nil _).symm
  | cons step rest ih =>
    have hstep := calls_takeStep hstandard step point
    by_cases hcontinued : ∃ next, engine.takeStep step point = .continued next
    · obtain ⟨next, htaken⟩ := hcontinued
      rw [htaken] at hstep
      have hnext : next.stage.calls = point.stage.calls ++ (engine.execution step point).calls := hstep
      rw [executions_of_continued htaken, List.flatMap_cons, ← List.append_assoc, ← hnext, ← ih next]
      simp only [takeSteps, htaken]
    · have hstuck := not_exists.mp hcontinued
      rw [executions_of_stuck hstuck, List.flatMap_singleton, ← hstep]
      unfold takeSteps
      split
      · next next htaken => exact absurd htaken (hstuck next)
      · rfl

end Standard

theorem calls_conclude (engine : Engine σ τ) (course : Course σ τ) :
    (engine.conclude course).stage.calls = course.progress.stage.calls := by
  cases course with
  | continued progress =>
    have hunlogged := engine.unlogged_conclude_continued progress
    exact (congrArg Stage.calls hunlogged :)
  | faulted fault progress =>
    have hunlogged := engine.unlogged_conclude_faulted fault progress
    exact (congrArg Stage.calls hunlogged :)
  | escaped => rfl
  | stalled => rfl

/-! ### Results -/

/-- A final record has the results of the executions, in their order. -/
theorem results_of_executions {steps : List Step} {point : Progress σ τ} {record : Record}
    {data : Data}
    (hending : (engine.conclude (engine.takeSteps steps point)).ending = .finished record data) :
    record.results
      = point.record.results ++ (engine.executions steps point).filterMap Execution.filed? := by
  induction steps generalizing point with
  | nil =>
    rw [takeSteps, ending_conclude_continued] at hending
    obtain ⟨rfl, -⟩ := Ending.finished.inj hending
    exact (List.append_nil _).symm
  | cons step rest ih =>
    by_cases hcontinued : ∃ next, engine.takeStep step point = .continued next
    · obtain ⟨next, htaken⟩ := hcontinued
      rw [takeSteps, htaken] at hending
      rw [executions_of_continued htaken, ih hending]
      obtain ⟨result, after, filed, hinvoke, hfiled, rfl⟩ := takeStep_eq_continued htaken
      have hentry : (engine.execution step point).filed? = some (step.id, result) := by
        simp only [Execution.filed?, execution, hinvoke]
      rw [record_recordStep, (Record.eq_of_addResult hfiled).2, List.filterMap_cons_some hentry]
      simp
    · rw [executions_of_stuck (not_exists.mp hcontinued)]
      unfold takeSteps takeStep at hending
      -- Of the steps that end a run, only one at fault leaves a final record.
      rcases hinvoke : engine.invoke point.record point.data step point.stage with
        ⟨(fault | result) | failure | _, after⟩ <;> rw [hinvoke] at hending
      · rw [ending_conclude_faulted] at hending
        obtain ⟨rfl, -⟩ := Ending.finished.inj hending
        simp [Execution.filed?, execution, hinvoke, Record.finish]
      · rcases hfiled : point.record.addResult step.id result with error | filed
        · simp [hfiled, conclude] at hending
        · exact absurd ⟨_, takeStep_of_filed hinvoke hfiled⟩ hcontinued
      · cases hending
      · cases hending

/-! ### Whole runs -/

section Run

variable {id : String} {request : RunRequest} {stage : Stage σ} {sink : τ}

theorem executed_of_runsOver {order : List Step} (hruns : engine.RunsOver request stage order) :
    engine.executed id request stage sink
      = engine.executions order (engine.opening id request stage sink order) := by
  obtain ⟨definition, hloads, horder⟩ := hruns
  have hloads' : engine.Loads request.workflowId (greeted request stage).world definition := hloads
  simp only [executed, load_of_loads hloads', horder]

/-- A run that comes to no steps executes none, and calls nothing. -/
theorem executed_of_not_runsOver (hparsed : engine.LooksUpParsed) (id : String) (sink : τ)
    (hnone : ∀ order, ¬ engine.RunsOver request stage order) :
    engine.executed id request stage sink = [] ∧
      (engine.execute id request stage sink).stage.calls = stage.calls ∧
      ∀ record data, (engine.execute id request stage sink).ending = .finished record data →
        record.results = [] := by
  rcases engine.load_cases request.workflowId (greeted request stage) with
    ⟨definition, hloads, -⟩ | ⟨failure, -, hload⟩ | ⟨-, hload⟩
  · obtain ⟨order, hruns⟩ := exists_runsOver hparsed hloads
    exact absurd hruns (hnone order)
  · refine ⟨by simp only [executed, hload], ?_, ?_⟩
    · rw [execute_of_load_error hload]
      have hunlogged := fun progress => engine.unlogged_finish .failed
        (some (LoadFailure.ofFailure failure).message) (some (LoadFailure.ofFailure failure).status)
        progress
      exact (congrArg Stage.calls (hunlogged _) :)
    · intro record data hending
      rw [ending_of_load_error hload] at hending
      obtain ⟨rfl, -⟩ := Ending.finished.inj hending
      rfl
  · refine ⟨by simp only [executed, hload], ?_, ?_⟩
    all_goals
      simp only [greeted] at hload
      simp only [execute, hload]
    · rfl
    · intro record data hending
      cases hending

/-- **Each step of a run calls once at most.** With the standard executors, whatever the services do, the
calls of a run are those of the steps that it comes to, in their order. No step is executed twice; each
execution makes one call at most, of the kind of its step, and none for conditions and transformations;
and a step of another type whose result is a success has made its call. A submission that is refused
calls nothing. -/
theorem each_step_calls_once (hstandard : engine.registry.IsStandard)
    (hparsed : engine.LooksUpParsed) (id : String) (submission : Submission) (stage : Stage σ)
    (sink : τ) :
    (∀ error, submission.accept = .error error →
        (engine.run id submission stage sink).stage.calls = stage.calls) ∧
      ∀ request, submission.accept = .ok request →
        (engine.run id submission stage sink).stage.calls
            = stage.calls ++ (engine.executed id request stage sink).flatMap (·.calls) ∧
          ((engine.executed id request stage sink).map (·.step.id)).Nodup ∧
          (∀ order, engine.RunsOver request stage order →
            (engine.executed id request stage sink).map (·.step) <+: order) ∧
          (∀ execution, execution ∈ engine.executed id request stage sink ↔
            ∃ rest point, engine.ComesTo id request stage sink (execution.step :: rest) point ∧
              execution = engine.execution execution.step point) ∧
          (∀ execution ∈ engine.executed id request stage sink, execution.CallsOnce) ∧
          ∀ record data, (engine.run id submission stage sink).ending = .finished record data →
            record.results = (engine.executed id request stage sink).filterMap Execution.filed? := by
  constructor
  · intro error herror
    rw [run, herror]
  · intro request haccept
    rw [run_of_accept haccept]
    by_cases hloads : ∃ order, engine.RunsOver request stage order
    · obtain ⟨order, hruns⟩ := hloads
      have hpre := engine.steps_executions_prefix order (engine.opening id request stage sink order)
      rw [execute_of_runsOver hruns, executed_of_runsOver hruns]
      refine ⟨?_, ?_, ?_, fun execution => ?_, ?_, ?_⟩
      · rw [calls_conclude, calls_takeSteps hstandard]
        rfl
      · have hids := (hpre.sublist.map Step.id).nodup (hruns.nodup_ids hparsed)
        rwa [List.map_map] at hids
      · intro other hother
        rwa [hruns.unique hother]
      · rw [mem_executions_iff]
        constructor
        · rintro ⟨rest, point, hreach, hexecution⟩
          exact ⟨rest, point, ⟨order, hruns, hreach⟩, hexecution⟩
        · rintro ⟨rest, point, ⟨other, hother, hreach⟩, hexecution⟩
          obtain rfl := hruns.unique hother
          exact ⟨rest, point, hreach, hexecution⟩
      · intro execution hmem
        obtain ⟨rest, point, -, hexecution⟩ := mem_executions_iff.mp hmem
        rw [hexecution]
        exact callsOnce_execution hstandard _ point
      · exact fun record data hending => results_of_executions hending
    · obtain ⟨hnone, hcalls, hresults⟩ := executed_of_not_runsOver hparsed id sink
        (not_exists.mp hloads)
      rw [hnone]
      refine ⟨by simpa using hcalls, List.nodup_nil, fun _ _ => List.nil_prefix, fun execution => ?_,
        by simp, hresults⟩
      constructor
      · intro hmem
        cases hmem
      · rintro ⟨rest, point, ⟨order, hruns, -⟩, -⟩
        exact absurd ⟨order, hruns⟩ hloads

end Run

end Engine

namespace Sample

theorem tidings_calls_once :
    tidingsEngine.registry.IsStandard ∧ tidingsEngine.LooksUpParsed ∧
      submission.accept = .ok request ∧
      (tidingsEngine.run "run" submission (.start ()) ()).stage.calls
        = (tidingsEngine.executed "run" request (.start ()) ()).flatMap (·.calls) ∧
      (∀ execution ∈ tidingsEngine.executed "run" request (.start ()) (), execution.CallsOnce) ∧
      (tidingsEngine.executed "run" request (.start ()) ()).map
          (fun execution => (execution.step.id, execution.calls.map Call.type))
        = [("fetch", [.apiCall]), ("tell", [.notification])] := by
  have hstandard : tidingsEngine.registry.IsStandard := Registry.isStandard_standard stateless _
  have hparsed : tidingsEngine.LooksUpParsed := Engine.looksUpParsed_knowing tidings_parsed _
  have haccept : submission.accept = .ok request := by rfl
  obtain ⟨hcalls, -, -, -, honce, -⟩ :=
    (Engine.each_step_calls_once hstandard hparsed "run" submission (.start ()) ()).2 request haccept
  exact ⟨hstandard, hparsed, haccept, hcalls, honce, by decide +kernel⟩

end Sample

end Runbook
