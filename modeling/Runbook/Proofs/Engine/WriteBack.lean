import Runbook.Proofs.Engine.Ending
import Runbook.Proofs.Transformation

/-!
# What a step writes back

Only a transformation that replaces runtime data changes them. With the standard executor in charge of
transformations, what it puts in the place of its input is what it makes of the data as they are.
-/

namespace Runbook.Engine

variable {σ τ : Type} {engine : Engine σ τ}

theorem run_eq_of_invoke_ok {collaborators : Collaborators σ}
    (htransformation : engine.registry.find? .dataTransformation
      = some (.standard collaborators .dataTransformation))
    {record : Record} {data : Data} {step : Step} {stage after : Stage σ} {result : StepResult}
    (hinvoke : engine.invoke record data step stage = (.answered (.ok result), after))
    {config : TransformationConfig} (hconfig : step.config = .dataTransformation config) {d : Datum}
    (houtcome : result.outcome = .success d) : config.run data = .ok d := by
  have htype : step.type = .dataTransformation := by rw [Step.type, hconfig]; rfl
  have hrun := run_of_invoke_ok (by rw [htype, htransformation]) hinvoke
  exact Executor.run_transformation_of_success step data hrun hconfig houtcome

/-- A step that lets the run go on files its result and writes back what its transformation, if it is
one, makes of the data. -/
theorem takeStep_eq_written {collaborators : Collaborators σ}
    (htransformation : engine.registry.find? .dataTransformation
      = some (.standard collaborators .dataTransformation))
    {step : Step} {progress next : Progress σ τ}
    (htaken : engine.takeStep step progress = .continued next) :
    ∃ result, progress.record.addResult step.id result = .ok next.record ∧
      next.data = applyOutput step result progress.data ∧
      ∀ config d, step.config = .dataTransformation config → result.outcome = .success d →
        config.run progress.data = .ok d := by
  obtain ⟨result, after, record, hinvoke, hfiled, rfl⟩ := takeStep_eq_continued htaken
  refine ⟨result, ?_, ?_, fun config d hconfig houtcome => ?_⟩
  · rw [record_recordStep, hfiled]
  · rw [data_recordStep]
  · exact run_eq_of_invoke_ok htransformation hinvoke hconfig houtcome

theorem applyOutput_of_replace {step : Step} {result : StepResult} {config : TransformationConfig}
    {d : Datum} (hconfig : step.config = .dataTransformation config)
    (hreplace : config.replaceData = true) (houtcome : result.outcome = .success d) (data : Data) :
    applyOutput step result data = Entries.put data config.target d := by
  simp [applyOutput, hconfig, houtcome, hreplace]

/-- The data after a step are as before, or a transformation has replaced its input. -/
theorem applyOutput_cases (step : Step) (result : StepResult) (data : Data) :
    applyOutput step result data = data ∨
      ∃ config d, step.config = .dataTransformation config ∧ config.replaceData = true ∧
        result.outcome = .success d ∧
        applyOutput step result data = Entries.put data config.target d := by
  unfold applyOutput
  split
  · next config d hconfig houtcome =>
    split
    · next hreplace => exact Or.inr ⟨config, d, hconfig, hreplace, houtcome, rfl⟩
    · exact Or.inl rfl
  · exact Or.inl rfl

end Runbook.Engine

namespace Runbook.Sample

/-- A transformation of no known kind, which passes on its input, or puts it where it has it from. -/
def passOn (replaceData : Bool) : Step where
  id := "pass"
  name := none
  dependencies := []
  timeout := none
  config := .dataTransformation
    { transformation := "none"
      conditions := []
      mappings := []
      groupBy := none
      source := none
      replaceData := replaceData }

def passing (replaceData : Bool) : Definition where
  id := "passing"
  name := none
  steps := [passOn replaceData]

def passingEngine (replaceData : Bool) : Engine Unit Unit :=
  engineFor (passing replaceData)

theorem passingEngine_looksUpParsed (replaceData : Bool) :
    (passingEngine replaceData).LooksUpParsed := by
  cases replaceData with
  | false => exact engineFor_looksUpParsed ⟨(passing false).toValue, rfl⟩
  | true => exact engineFor_looksUpParsed ⟨(passing true).toValue, rfl⟩

end Runbook.Sample
