import Runbook.Proofs.Engine.Stop
import Runbook.Proofs.Executor.Standard

/-!
# How runs end

A submission is refused before anything happens, or its run ends with a final record. The record tells
of a workflow that did not load, of the step at which an executor broke its contract, or of a run
through all steps; what it tells is what has happened.
-/

namespace Runbook

/-- The final record of a run that has one. -/
def Ending.record? : Ending → Option Record
  | .finished record _ => some record
  | _ => none

namespace Engine

variable {σ τ : Type} {engine : Engine σ τ}

/-! ### Final records -/

@[simp] theorem record_finish (engine : Engine σ τ) (status : Status) (error : Option String)
    (errorStatus : Option Int) (progress : Progress σ τ) :
    (engine.finish status error errorStatus progress).record
      = progress.record.finish status error errorStatus (engine.clock progress.stage.world) :=
  Progress.record_afterRecording _ _

@[simp] theorem data_finish (engine : Engine σ τ) (status : Status) (error : Option String)
    (errorStatus : Option Int) (progress : Progress σ τ) :
    (engine.finish status error errorStatus progress).data = progress.data :=
  Progress.data_afterRecording _ _

theorem ending_conclude_continued (progress : Progress σ τ) :
    (engine.conclude (.continued progress)).ending
      = .finished (progress.record.finish .completed none none (engine.clock progress.stage.world))
          progress.data := by
  simp only [conclude, finished, record_finish, data_finish]
  split <;> rfl

theorem ending_conclude_faulted (fault : EngineFault) (progress : Progress σ τ) :
    (engine.conclude (.faulted fault progress)).ending
      = .finished (progress.record.finish .failed (some fault.message) (some 500)
          (engine.clock progress.stage.world)) progress.data := by
  simp only [conclude, finished, record_finish, data_finish]
  rfl

variable {id : String} {request : RunRequest} {stage : Stage σ} {sink : τ}

/-! ### Runs over steps -/

/-- A run over some steps takes them all or stops at a fault, unless it hangs. -/
theorem ending_of_runsOver (hparsed : engine.LooksUpParsed) {order : List Step}
    (hruns : engine.RunsOver request stage order)
    (hends : ¬ engine.HangsOpenly id request stage sink) :
    (∃ last, engine.Reaches order (engine.opening id request stage sink order) [] last ∧
        (engine.execute id request stage sink).ending
          = .finished (last.record.finish .completed none none (engine.clock last.stage.world))
              last.data) ∨
      ∃ step rest last fault after,
        engine.Reaches order (engine.opening id request stage sink order) (step :: rest) last ∧
        engine.invoke last.record last.data step last.stage = (.answered (.error fault), after) ∧
        (engine.execute id request stage sink).ending
          = .finished (last.record.finish .failed (some fault.message) (some 500)
              (engine.clock after.world)) last.data := by
  obtain ⟨left, last, course, hreach, hstops, htaken⟩ :=
    Reaches.exists_stop (hruns.nodup_ids hparsed)
      (.refl order (engine.opening id request stage sink order))
  rw [execute_of_runsOver hruns, htaken]
  cases hstops with
  | done => exact Or.inl ⟨last, hreach, ending_conclude_continued last⟩
  | faulted hinvoke =>
    exact Or.inr ⟨_, _, last, _, _, hreach, hinvoke, ending_conclude_faulted _ _⟩
  | stalled hinvoke =>
    obtain ⟨executor, hfound, hhangs⟩ := hangsOpenly_of_invoke_hung (by rw [hinvoke])
    exact absurd (Or.inr ⟨_, _, last, executor, ⟨order, hruns, hreach⟩, hfound, hhangs⟩) hends

/-- A final record has the results of the point at which the run stopped. -/
theorem Stops.results_of_ending {left : List Step} {last : Progress σ τ} {course : Course σ τ}
    (h : engine.Stops left last course) {record : Record} {data : Data}
    (hending : (engine.conclude course).ending = .finished record data) :
    record.results = last.record.results ∧ data = last.data := by
  cases h with
  | done =>
    rw [ending_conclude_continued] at hending
    obtain ⟨rfl, rfl⟩ := Ending.finished.inj hending
    exact ⟨rfl, rfl⟩
  | faulted hinvoke =>
    rw [ending_conclude_faulted] at hending
    obtain ⟨rfl, rfl⟩ := Ending.finished.inj hending
    exact ⟨rfl, rfl⟩
  | stalled hinvoke => cases hending

/-- From every point of a run that ends, there is one which its final record tells of. -/
theorem ComesTo.exists_final (hparsed : engine.LooksUpParsed) {rest : List Step}
    {point : Progress σ τ} (hpoint : engine.ComesTo id request stage sink rest point)
    {record : Record} {data : Data}
    (hending : (engine.execute id request stage sink).ending = .finished record data) :
    ∃ left last course, engine.Reaches rest point left last ∧ engine.Stops left last course ∧
      record.results = last.record.results ∧ data = last.data := by
  obtain ⟨order, hruns, hreach⟩ := hpoint
  obtain ⟨left, last, course, hrest, hstops, htaken⟩ := hreach.exists_stop (hruns.nodup_ids hparsed)
  rw [execute_of_runsOver hruns, htaken] at hending
  exact ⟨left, last, course, hrest, hstops, hstops.results_of_ending hending⟩

/-- With services that never hang, neither does a run. -/
theorem not_hangsOpenly_of_responsive {collaborators : Collaborators σ} {deadlines : Deadlines}
    (hregistry : engine.registry = .standard collaborators deadlines)
    (hservices : collaborators.Responsive)
    (hlookup : (engine.lookup request.workflowId stage.world).1 ≠ .hung) :
    ¬ engine.HangsOpenly id request stage sink := by
  rintro (hhung | ⟨step, rest, progress, executor, -, hfound, hhangs⟩)
  · exact hlookup hhung
  · rw [hregistry, Registry.find?_standard] at hfound
    obtain rfl := Option.some.inj hfound
    exact Executor.not_hangsOpenly_standard step progress.data hservices _ _ _ hhangs

/-! ### Workflows that do not load -/

theorem execute_of_load_error {failure : LoadFailure} {after : Stage σ}
    (hload : engine.load request.workflowId (greeted request stage)
      = (.answered (.error failure), after)) :
    engine.execute id request stage sink
      = finished (engine.finish .failed (some failure.message) (some failure.status)
          { record := .begin id request.workflowId request.userId request.trigger request.metadata
              (engine.clock stage.world)
            data := []
            stage := { after with log := after.log ++ [failure.logEntry] }
            sink }) := by
  simp only [greeted] at hload
  simp only [execute, hload]

theorem ending_of_load_error {failure : LoadFailure} {after : Stage σ}
    (hload : engine.load request.workflowId (greeted request stage)
      = (.answered (.error failure), after)) :
    (engine.execute id request stage sink).ending
      = .finished ((Record.begin id request.workflowId request.userId request.trigger
          request.metadata (engine.clock stage.world)).finish .failed (some failure.message)
          (some failure.status) (engine.clock after.world)) [] := by
  rw [execute_of_load_error hload, finished, record_finish, data_finish]

/-- A workflow that does not load runs no executor: the registry does not matter. -/
theorem execute_registry_of_load_error {failure : LoadFailure} {after : Stage σ}
    (hload : engine.load request.workflowId (greeted request stage)
      = (.answered (.error failure), after)) (registry : Registry σ) :
    ({ engine with registry } : Engine σ τ).execute id request stage sink
      = engine.execute id request stage sink := by
  have hother : ({ engine with registry } : Engine σ τ).load request.workflowId
      (greeted request stage) = (.answered (.error failure), after) := hload
  rw [execute_of_load_error hload, execute_of_load_error hother]
  rfl

theorem unloaded_finish (workflowId userId : String) (trigger : Trigger)
    (metadata : Value.Fields) (start stop : Instant) (failure : Failure) :
    ((Record.begin id workflowId userId trigger metadata start).finish .failed
      (some (LoadFailure.ofFailure failure).message) (some (LoadFailure.ofFailure failure).status)
      stop).Unloaded where
  status := rfl
  error := Option.some_ne_none _
  errorStatus := by simpa [Record.finish] using LoadFailure.status_ofFailure failure
  results := rfl
  completed := rfl
  total := rfl

/-! ### Every run -/

/-- What lies behind the final record of a run: the failure to load, the fault of the step in the
position, or a run through all steps in order. -/
def EndsBy (engine : Engine σ τ) (id : String) (request : RunRequest) (stage : Stage σ) (sink : τ)
    (order : List Step) (record : Record) : Record.Shape → Prop
  | .unloaded =>
    order = [] ∧ ∃ failure, engine.FailsToLoad request.workflowId stage.world failure ∧
      record.error = some (LoadFailure.ofFailure failure).message ∧
      record.errorStatus = some (LoadFailure.ofFailure failure).status ∧
      ∀ registry, ({ engine with registry } : Engine σ τ).execute id request stage sink
        = engine.execute id request stage sink
  | .aborted position =>
    engine.RunsOver request stage order ∧ ∃ step rest progress fault,
      order.drop position = step :: rest ∧
      engine.ComesTo id request stage sink (step :: rest) progress ∧
      (engine.invoke progress.record progress.data step progress.stage).1
        = .answered (.error fault) ∧
      record.results = progress.record.results ∧ record.error = some fault.message
  | .complete =>
    engine.RunsOver request stage order ∧ ∃ progress,
      engine.ComesTo id request stage sink [] progress ∧ record.results = progress.record.results

theorem exists_shape_of_execute (hparsed : engine.LooksUpParsed)
    (hends : ¬ engine.HangsOpenly id request stage sink) :
    ∃ record data order shape,
      (engine.execute id request stage sink).ending = .finished record data ∧
      engine.EndsBy id request stage sink order record shape ∧ record.HasShape order shape := by
  rcases engine.load_cases request.workflowId (greeted request stage) with
    ⟨definition, hloads, -⟩ | ⟨failure, hfails, hload⟩ | ⟨hhung, -⟩
  · obtain ⟨order, hruns⟩ : ∃ order, engine.RunsOver request stage order :=
      exists_runsOver hparsed hloads
    have hids := hruns.nodup_ids hparsed
    rcases ending_of_runsOver hparsed hruns hends with
      ⟨last, hreach, hending⟩ | ⟨step, rest, last, fault, after, hreach, hinvoke, hending⟩
    · obtain ⟨taken, hsplit, haccounts⟩ := hreach.accounts hids
      rw [List.append_nil] at hsplit
      subst hsplit
      exact ⟨_, _, taken, .complete, hending,
        ⟨hruns, last, ⟨taken, hruns, hreach⟩, rfl⟩, haccounts.complete _⟩
    · obtain ⟨taken, hsplit, haccounts⟩ := hreach.accounts hids
      subst hsplit
      refine ⟨_, _, _, .aborted taken.length, hending, ⟨hruns, step, rest, last, fault, ?_, ?_, ?_⟩,
        haccounts.aborted fault.message _⟩
      · exact List.drop_left
      · exact ⟨_, hruns, hreach⟩
      · exact ⟨by rw [hinvoke], rfl, rfl⟩
  · exact ⟨_, [], [], .unloaded, ending_of_load_error hload,
      ⟨rfl, failure, hfails, rfl, rfl, execute_registry_of_load_error hload⟩, unloaded_finish ..⟩
  · exact absurd (Or.inl hhung) hends

/-- **Every run ends as its record tells.** A submission that is refused leaves everything as it was,
and only such a submission is refused. Any other run that does not hang with nothing to end that returns
a final record of exactly one shape, and what the record tells is what has happened. -/
theorem run_ends_in_one_shape (hparsed : engine.LooksUpParsed) (id : String)
    (submission : Submission) (stage : Stage σ) (sink : τ) :
    (∀ error, submission.accept = .error error →
        error.toFailure.name = "ValidationError" ∧
        engine.run id submission stage sink = { ending := .refused error, stage, sink }) ∧
      ∀ request, submission.accept = .ok request →
        ¬ engine.HangsOpenly id request stage sink →
          ∃ record data order shape,
            (engine.run id submission stage sink).ending = .finished record data ∧
            engine.EndsBy id request stage sink order record shape ∧
            record.HasShape order shape ∧
            ∀ others other, record.HasShape others other → other = shape := by
  constructor
  · intro error herror
    refine ⟨rfl, ?_⟩
    rw [run, herror]
  · intro request haccept hends
    have hrun : engine.run id submission stage sink = engine.execute id request stage sink := by
      rw [run, haccept]
    obtain ⟨record, data, order, shape, hending, hcause, hshape⟩ :=
      exists_shape_of_execute hparsed hends
    rw [hrun]
    exact ⟨record, data, order, shape, hending, hcause, hshape, fun _ _ => hshape.unique⟩

end Engine

namespace Sample

/-- A request to run the sample, as it is sent. -/
def submission : Submission where
  workflowId := .string "checks"
  userId := .string "ada"
  trigger := .string "manual"
  payload := .null
  metadata := .null

def request : RunRequest where
  workflowId := "checks"
  userId := "ada"
  trigger := .manual
  payload := .null
  metadata := []

def engine : Engine Unit Unit :=
  .knowing definition (.standard collaborators { enforced := true, default := none })

theorem engine_looksUpParsed : engine.LooksUpParsed :=
  Engine.looksUpParsed_knowing definition_parsed _

theorem engine_not_hangsOpenly : ¬ engine.HangsOpenly "run" request (.start ()) () :=
  Engine.not_hangsOpenly_of_responsive rfl collaborators_responsive (by simp [engine, Engine.knowing])

/-- An engine that takes the steps of one definition as they are declared, with all executors. -/
def engineFor (definition : Definition) : Engine Unit Unit :=
  { Engine.knowing definition (.standard collaborators { enforced := true, default := none }) with
    byDependency := false }

theorem engineFor_looksUpParsed {definition : Definition} (hparsed : definition.Parsed) :
    (engineFor definition).LooksUpParsed :=
  Engine.looksUpParsed_knowing hparsed
    (.standard collaborators { enforced := true, default := none })

theorem checks_end_in_one_shape :
    submission.accept = .ok request ∧ engine.LooksUpParsed ∧
      ¬ engine.HangsOpenly "run" request (.start ()) () ∧
      ∃ record data order shape,
        (engine.run "run" submission (.start ()) ()).ending = .finished record data ∧
        engine.EndsBy "run" request (.start ()) () order record shape ∧
        record.HasShape order shape ∧
        ∀ others other, record.HasShape others other → other = shape := by
  have haccept : submission.accept = .ok request := by rfl
  have hends := (Engine.run_ends_in_one_shape engine_looksUpParsed "run" submission (.start ()) ()).2
  exact ⟨haccept, engine_looksUpParsed, engine_not_hangsOpenly,
    hends request haccept engine_not_hangsOpenly⟩

end Sample

end Runbook
