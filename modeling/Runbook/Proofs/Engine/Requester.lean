import Runbook.Proofs.Engine.WriteBack

/-!
# The requesting user

The runtime data name the requesting user from the start, as a text. Only transformations write to the
runtime data, and they leave texts alone, so that the name stays for the whole run and goes out with
every completion that is asked for.
-/

namespace Runbook

theorem RunRequest.get?_initialData_userField (request : RunRequest) :
    Entries.get? request.initialData Data.userField = some (.value (.string request.userId)) :=
  Entries.get?_put_self _ _ _

namespace Engine

variable {σ τ : Type} {engine : Engine σ τ}

theorem get?_applyOutput_of_text {step : Step} {result : StepResult} {data : Data} {field s : String}
    (htext : Entries.get? data field = some (.value (.string s)))
    (houtput : ∀ config d, step.config = .dataTransformation config →
      result.outcome = .success d → config.run data = .ok d) :
    Entries.get? (applyOutput step result data) field = some (.value (.string s)) := by
  rcases applyOutput_cases step result data with hsame | ⟨config, d, hconfig, -, houtcome, hput⟩
  · rw [hsame, htext]
  · rw [hput, config.get?_put_target_of_text htext (houtput config d hconfig houtcome)]

variable {collaborators : Collaborators σ}
  (htransformation : engine.registry.find? .dataTransformation
    = some (.standard collaborators .dataTransformation))
include htransformation

theorem get?_data_of_takeStep {step : Step} {progress next : Progress σ τ} {field s : String}
    (htaken : engine.takeStep step progress = .continued next)
    (htext : Entries.get? progress.data field = some (.value (.string s))) :
    Entries.get? next.data field = some (.value (.string s)) := by
  obtain ⟨result, -, hdata, houtput⟩ := takeStep_eq_written htransformation htaken
  rw [hdata]
  exact get?_applyOutput_of_text htext houtput

theorem Reaches.get?_data_of_text {steps rest : List Step} {progress last : Progress σ τ}
    {field s : String} (h : engine.Reaches steps progress rest last)
    (htext : Entries.get? progress.data field = some (.value (.string s))) :
    Entries.get? last.data field = some (.value (.string s)) :=
  h.keeps (fun _ progress => Entries.get? progress.data field = some (.value (.string s)))
    (fun _ _ _ _ hkept htaken => get?_data_of_takeStep htransformation htaken hkept) htext

theorem ComesTo.get?_userField {id : String} {request : RunRequest} {stage : Stage σ} {sink : τ}
    {rest : List Step} {progress : Progress σ τ}
    (h : engine.ComesTo id request stage sink rest progress) :
    Entries.get? progress.data Data.userField = some (.value (.string request.userId)) := by
  obtain ⟨order, -, hreach⟩ := h
  exact hreach.get?_data_of_text htransformation request.get?_initialData_userField

omit htransformation in
theorem calls_invoke_standard {step : Step}
    (hstandard : engine.registry.find? step.type = some (.standard collaborators step.type))
    (record : Record) (data : Data) (stage : Stage σ) :
    ∃ made, (engine.invoke record data step stage).2.calls = stage.calls ++ made ∧
      ∀ call ∈ made, Executor.OnBehalfOf (Executor.requester data) call := by
  have hmakes := Executor.makes_run_of_guarded step data
    (Executor.procedure_standard collaborators step.type)
    (Executor.makes_execute collaborators step data (engine.registry.deadlines.effective step))
    engine.clock
  obtain ⟨made, hcalls, hmade⟩ := hmakes (warnPending stage record step)
  refine ⟨made, ?_, hmade⟩
  rw [invoke_eq_judged hstandard, stage_judged, hcalls, calls_warnPending]

/-- **The requesting user cannot be replaced.** With the standard executor in charge of transformations,
the runtime data name the requesting user at every point of every run, and whatever step a standard
executor takes from there, it asks for completions on that user's behalf. -/
theorem userField_holds_requester {id : String} {request : RunRequest} {stage : Stage σ} {sink : τ}
    {rest : List Step} {progress : Progress σ τ}
    (hpoint : engine.ComesTo id request stage sink rest progress) :
    Entries.get? progress.data Data.userField = some (.value (.string request.userId)) ∧
      ∀ step services,
        engine.registry.find? step.type = some (.standard services step.type) →
          ∃ made,
            (engine.invoke progress.record progress.data step progress.stage).2.calls
              = progress.stage.calls ++ made ∧
            ∀ completion, Call.completion completion ∈ made →
              completion.user = .value (.string request.userId) := by
  have huser := hpoint.get?_userField htransformation
  refine ⟨huser, ?_⟩
  intro step services hstandard
  obtain ⟨made, hcalls, hmade⟩ :=
    calls_invoke_standard hstandard progress.record progress.data progress.stage
  refine ⟨made, hcalls, fun completion hcompletion => ?_⟩
  rw [hmade _ hcompletion completion rfl, Executor.requester, huser, Option.getD_some]

end Engine

namespace Sample

/-- A transformation that takes the user's name for its input and replaces it by its output. -/
def relabel : Step where
  id := "relabel"
  name := none
  dependencies := []
  timeout := none
  config := .dataTransformation
    { transformation := "capitals"
      conditions := []
      mappings := []
      groupBy := none
      source := some "userId"
      replaceData := true }

def ask : Step where
  id := "ask"
  name := none
  dependencies := ["relabel"]
  timeout := none
  config := .aiProcessing { prompt := "Who am I?", useCase := none, provider := none }

/-- A request with a payload that names another user. -/
def forgery : RunRequest :=
  { request with payload := .object [("userId", .string "eve")] }

/-- An engine that knows these two steps and has a completion service. -/
def askingEngine : Engine Unit Unit :=
  { Engine.knowing { id := "asking", name := none, steps := [relabel, ask] }
      (.standard { collaborators with completion := some fun _ => pure .null }
        { enforced := true, default := none }) with
    byDependency := false }

theorem forgery_names_requester :
    ∃ progress, askingEngine.ComesTo "run" forgery (.start ()) () [ask] progress ∧
      Entries.get? progress.data Data.userField = some (.value (.string "ada")) ∧
      ∃ made,
        (askingEngine.invoke progress.record progress.data ask progress.stage).2.calls
          = progress.stage.calls ++ made ∧
        ∀ completion, Call.completion completion ∈ made →
          completion.user = .value (.string "ada") := by
  have hpoint : ∃ progress, askingEngine.ComesTo "run" forgery (.start ()) () [ask] progress :=
    ⟨_, [relabel, ask], ⟨_, ⟨rfl, rfl⟩, rfl⟩, .step rfl (.refl _ _)⟩
  obtain ⟨progress, hpoint⟩ := hpoint
  have hnamed := Engine.userField_holds_requester rfl hpoint
  exact ⟨progress, hpoint, hnamed.1, hnamed.2 ask _ rfl⟩

end Sample

end Runbook
