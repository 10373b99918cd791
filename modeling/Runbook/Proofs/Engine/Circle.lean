import Mathlib.Data.List.Nodup
import Runbook.Proofs.Engine.WriteBack
import Runbook.Proofs.Template

/-!
# How runtime data come to contain themselves

A transformation of no known kind passes its input on, and without a source its input is the default
field or else the runtime data as a whole. When its output replaces its input, data without a default
field get themselves for one. There is no other way, and none back.
-/

namespace Runbook

/-- A step that puts its input into the default field, as it is. -/
def Step.StoresInput (step : Step) : Prop :=
  ∃ config, step.config = .dataTransformation config ∧ config.replaceData = true ∧
    (config.source = none ∨ config.source = some "") ∧
    config.transformation ∉ ["filter", "map", "aggregate"]

namespace Engine

variable {σ τ : Type} {engine : Engine σ τ}

/-! ### One write-back -/

section WriteBack

variable {step : Step} {result : StepResult} {data : Data}
  (houtput : ∀ config d, step.config = .dataTransformation config →
    result.outcome = .success d → config.run data = .ok d)
include houtput

theorem holdsItself_of_storesInput (hcircular : data.isCircular = false)
    (hmissing : Entries.get? data Data.defaultField = none) (hstores : step.StoresInput)
    (hsuccess : result.outcome.isSuccess = true) :
    Data.HoldsItself (applyOutput step result data) := by
  obtain ⟨config, hconfig, hreplace, hsource, hkind⟩ := hstores
  rw [← TransformationConfig.givenSource?_eq_none_iff] at hsource
  cases houtcome : result.outcome with
  | failure error => simp [houtcome, Outcome.isSuccess] at hsuccess
  | success d =>
    have hinput : config.input data = .ok .whole :=
      TransformationConfig.input_eq_whole_iff.mpr (Or.inr ⟨hsource, hmissing⟩)
    obtain ⟨-, rfl⟩ := TransformationConfig.eq_whole_of_run hinput (houtput config d hconfig houtcome)
    rw [applyOutput_of_replace hconfig hreplace houtcome,
      TransformationConfig.target_of_givenSource_eq_none hsource]
    refine Data.holdsItself_put_whole fun entry hentry hwhole => ?_
    rw [Data.isCircular_iff.mpr ⟨entry, hentry, hwhole⟩] at hcircular
    cases hcircular

/-- Every other step leaves data plain, and a default field where there is one and only there. -/
theorem plain_applyOutput (hcircular : data.isCircular = false)
    (hother : ¬ (Entries.get? data Data.defaultField = none ∧ step.StoresInput ∧
      result.outcome.isSuccess = true)) :
    Data.isCircular (applyOutput step result data) = false ∧
      (Entries.get? (applyOutput step result data) Data.defaultField = none ↔
        Entries.get? data Data.defaultField = none) := by
  rcases applyOutput_cases step result data with hsame | ⟨config, d, hconfig, hreplace, houtcome, hput⟩
  · rw [hsame]
    exact ⟨hcircular, Iff.rfl⟩
  · have hrun := houtput config d hconfig houtcome
    rw [hput]
    cases d with
    | whole =>
      -- The whole comes out only as the input of a step that stores it, with no default field.
      obtain ⟨hkind, hinput⟩ := TransformationConfig.run_eq_whole_iff.mp hrun
      rcases TransformationConfig.input_eq_whole_iff.mp hinput with htarget | ⟨hsource, hmissing⟩
      · exact absurd htarget (Data.get?_ne_whole hcircular _)
      · refine absurd ⟨hmissing, ⟨config, hconfig, hreplace, ?_, ?_⟩, ?_⟩ hother
        · exact TransformationConfig.givenSource?_eq_none_iff.mp hsource
        · exact TransformationConfig.kind?_eq_none_iff.mp hkind
        · rw [houtcome]
          rfl
    | value v =>
      refine ⟨Data.isCircular_put_value hcircular _ v, ?_⟩
      by_cases htarget : config.target = Data.defaultField
      · have hpresent : Entries.get? data Data.defaultField ≠ none := by
          intro hmissing
          obtain ⟨-, -, hwhole⟩ :=
            TransformationConfig.whole_of_run_of_missing (htarget ▸ hmissing) hrun
          cases hwhole
        rw [htarget, Entries.get?_put_self]
        simp [hpresent]
      · rw [Entries.get?_put_of_ne _ _ htarget]

theorem holdsItself_applyOutput (hholds : data.HoldsItself) :
    Data.HoldsItself (applyOutput step result data) := by
  rcases applyOutput_cases step result data with hsame | ⟨config, d, hconfig, hreplace, houtcome, hput⟩
  · rwa [hsame]
  · have hrun := houtput config d hconfig houtcome
    rw [hput]
    by_cases htarget : config.target = Data.defaultField
    · have hinput : config.input data = .ok .whole :=
        TransformationConfig.input_eq_whole_iff.mpr (Or.inl (by rw [htarget, hholds.default]))
      obtain ⟨-, rfl⟩ := TransformationConfig.eq_whole_of_run hinput hrun
      rw [htarget]
      exact Data.holdsItself_put_whole hholds.only
    · cases d with
      | value v => exact hholds.put_value htarget v
      | whole =>
        obtain ⟨-, hinput⟩ := TransformationConfig.run_eq_whole_iff.mp hrun
        rcases TransformationConfig.input_eq_whole_iff.mp hinput with hwhole | ⟨hsource, -⟩
        · exact absurd (hholds.get?_eq_whole_iff.mp hwhole) htarget
        · exact absurd (TransformationConfig.target_of_givenSource_eq_none hsource) htarget

end WriteBack

/-! ### Whole runs -/

/-- Among these steps is one that stores its input, and the record has a success of it. -/
def HasStoredInput (order : List Step) (record : Record) : Prop :=
  ∃ step ∈ order, step.StoresInput ∧
    ∃ result, (step.id, result) ∈ record.results ∧ result.outcome.isSuccess = true

theorem hasStoredInput_of_addResult {order : List Step} (hids : (order.map (·.id)).Nodup)
    {step : Step} (hstep : step ∈ order) {record next : Record} {result : StepResult}
    (hfiled : record.addResult step.id result = .ok next) :
    HasStoredInput order next ↔
      HasStoredInput order record ∨ step.StoresInput ∧ result.outcome.isSuccess = true := by
  obtain ⟨-, rfl⟩ := Record.eq_of_addResult hfiled
  simp only [HasStoredInput, List.mem_append, List.mem_singleton, Prod.mk.injEq]
  constructor
  · rintro ⟨other, hother, hstores, found, hbefore | ⟨hid, rfl⟩, hsuccess⟩
    · exact Or.inl ⟨other, hother, hstores, found, hbefore, hsuccess⟩
    · obtain rfl := List.inj_on_of_nodup_map hids hother hstep hid
      exact Or.inr ⟨hstores, hsuccess⟩
  · rintro (⟨other, hother, hstores, found, hbefore, hsuccess⟩ | ⟨hstores, hsuccess⟩)
    · exact ⟨other, hother, hstores, found, Or.inl hbefore, hsuccess⟩
    · exact ⟨step, hstep, hstores, result, Or.inr ⟨rfl, rfl⟩, hsuccess⟩

/-- How the data at a point of a run came from those at its start: they are plain, with a default field
where there was one, or they hold themselves because a step stored its input. -/
inductive Standing (order : List Step) (initial : Data) (record : Record) (data : Data) : Prop where
  | plain (hcircular : data.isCircular = false)
      (hdefault : Entries.get? data Data.defaultField = none ↔
        Entries.get? initial Data.defaultField = none)
      (hstored : Entries.get? initial Data.defaultField = none → ¬ HasStoredInput order record)
  | circular (hholds : data.HoldsItself) (hmissing : Entries.get? initial Data.defaultField = none)
      (hstored : HasStoredInput order record)

theorem isCircular_initialData (request : RunRequest) : request.initialData.isCircular = false :=
  Data.isCircular_put_value (Data.isCircular_ofFields _) _ _

section Run

variable {collaborators : Collaborators σ}
  (htransformation : engine.registry.find? .dataTransformation
    = some (.standard collaborators .dataTransformation))
include htransformation

theorem Standing.takeStep {order : List Step} (hids : (order.map (·.id)).Nodup) {initial : Data}
    {step : Step} (hstep : step ∈ order) {progress next : Progress σ τ}
    (h : Standing order initial progress.record progress.data)
    (htaken : engine.takeStep step progress = .continued next) :
    Standing order initial next.record next.data := by
  obtain ⟨result, hfiled, hdata, houtput⟩ := takeStep_eq_written htransformation htaken
  have hnow := hasStoredInput_of_addResult hids hstep hfiled
  rw [hdata]
  cases h with
  | circular hholds hmissing hstored =>
    exact .circular (holdsItself_applyOutput houtput hholds) hmissing (hnow.mpr (Or.inl hstored))
  | plain hcircular hdefault hstored =>
    by_cases hstores : Entries.get? progress.data Data.defaultField = none ∧ step.StoresInput ∧
      result.outcome.isSuccess = true
    · obtain ⟨hmissing, hstores, hsuccess⟩ := hstores
      exact .circular (holdsItself_of_storesInput houtput hcircular hmissing hstores hsuccess)
        (hdefault.mp hmissing) (hnow.mpr (Or.inr ⟨hstores, hsuccess⟩))
    · obtain ⟨hplain, hkept⟩ := plain_applyOutput houtput hcircular hstores
      refine .plain hplain (hkept.trans hdefault) fun hmissing hstoredNow => ?_
      -- What the record has now it had before, or this step has just brought.
      rcases hnow.mp hstoredNow with hbefore | hstep
      · exact hstored hmissing hbefore
      · exact hstores ⟨hdefault.mpr hmissing, hstep⟩

variable {id : String} {request : RunRequest} {stage : Stage σ} {sink : τ} {order rest : List Step}
  {progress : Progress σ τ}

theorem Reaches.standing (hids : (order.map (·.id)).Nodup)
    (h : engine.Reaches order (engine.opening id request stage sink order) rest progress) :
    Standing order request.initialData progress.record progress.data := by
  have hkept : rest <:+ order ∧
      Standing order request.initialData progress.record progress.data := by
    refine h.keeps (fun rest progress => rest <:+ order ∧
      Standing order request.initialData progress.record progress.data) ?_ ?_
    · rintro step rest progress next ⟨hsuffix, hstanding⟩ htaken
      exact ⟨(List.suffix_cons _ _).trans hsuffix,
        hstanding.takeStep htransformation hids (hsuffix.subset List.mem_cons_self) htaken⟩
    · refine ⟨List.suffix_refl _, .plain (isCircular_initialData request) Iff.rfl ?_⟩
      rintro - ⟨step, -, -, result, hresult, -⟩
      cases hresult
  exact hkept.2

omit htransformation in
theorem Standing.only_default {initial data : Data} {record : Record}
    (h : Standing order initial record data) :
    ∀ entry ∈ data, entry.2 = .whole → entry.1 = Data.defaultField := by
  cases h with
  | plain hcircular _ _ =>
    intro entry hentry hwhole
    rw [Data.isCircular_iff.mpr ⟨entry, hentry, hwhole⟩] at hcircular
    cases hcircular
  | circular hholds _ _ => exact hholds.only

omit htransformation in
theorem Standing.isCircular_iff {initial data : Data} {record : Record}
    (h : Standing order initial record data) :
    data.isCircular = true ↔
      Entries.get? initial Data.defaultField = none ∧ HasStoredInput order record := by
  cases h with
  | plain hcircular _ hstored => simpa [hcircular] using hstored
  | circular hholds hmissing hstored => simp [hholds.isCircular, hmissing, hstored]

omit htransformation in
theorem Standing.resolve_eq_error_iff {initial data : Data} {record : Record}
    (h : Standing order initial record data) {template : String} {failure : Failure} :
    Template.resolve template data = .error failure ↔
      failure = .circular ∧ data.isCircular = true ∧
        (Template.Piece.placeholder Data.defaultField.toList).source <:+: template.toList := by
  have hchars : Data.defaultField.toList.all Text.isWordChar = true := by decide +kernel
  have hword : Template.IsWord Data.defaultField.toList :=
    ⟨by decide, List.all_eq_true.mp hchars⟩
  rw [Template.resolve_eq_error_iff, ← Template.mem_piecesFrom_iff hword]
  refine and_congr_right fun _ => and_congr_right fun hcircular => ?_
  cases h with
  | plain hplain _ _ => simp [hplain] at hcircular
  | circular hholds _ _ =>
    simp only [hholds.get?_eq_whole_iff]
    constructor
    · rintro ⟨word, hpiece, hword⟩
      rwa [← hword, String.toList_ofList]
    · intro hpiece
      exact ⟨_, hpiece, String.ofList_toList⟩

/-- **Where data that contain themselves come from.** With the standard executor in charge of
transformations, at every point of a run the runtime data are found in no field of theirs but the default
one. They are found there exactly if there was no default field at the start and a step that stores its
input has succeeded since, and then at every later point as well. Exactly then a template fails to resolve
if it has a placeholder for the default field, and no other template fails. -/
theorem isCircular_iff_input_stored (hparsed : engine.LooksUpParsed)
    (hruns : engine.RunsOver request stage order)
    (hreach : engine.Reaches order (engine.opening id request stage sink order) rest progress) :
    (∀ entry ∈ progress.data, entry.2 = .whole → entry.1 = Data.defaultField) ∧
      (progress.data.isCircular = true ↔
        Entries.get? request.initialData Data.defaultField = none ∧
          HasStoredInput order progress.record) ∧
      (progress.data.isCircular = true →
        ∀ left later, engine.Reaches rest progress left later → later.data.isCircular = true) ∧
      ∀ template,
        ((∃ failure, Template.resolve template progress.data = .error failure) ↔
          (Entries.get? request.initialData Data.defaultField = none ∧
            HasStoredInput order progress.record) ∧
          (Template.Piece.placeholder Data.defaultField.toList).source <:+: template.toList) ∧
        ∀ failure, Template.resolve template progress.data = .error failure →
          failure.message = "Circular reference detected" := by
  have hids := hruns.nodup_ids hparsed
  have hstanding := hreach.standing htransformation hids
  refine ⟨hstanding.only_default, hstanding.isCircular_iff, ?_, fun template => ⟨?_, ?_⟩⟩
  · intro hcircular left later hlater
    obtain ⟨hmissing, step, hstep, hstores, result, hresult, hsuccess⟩ :=
      hstanding.isCircular_iff.mp hcircular
    rw [((hreach.trans hlater).standing htransformation hids).isCircular_iff]
    exact ⟨hmissing, step, hstep, hstores, result, hlater.results_prefix.subset hresult, hsuccess⟩
  · simp only [← hstanding.isCircular_iff, hstanding.resolve_eq_error_iff, exists_eq_left]
  · intro failure hfailure
    rw [(hstanding.resolve_eq_error_iff.mp hfailure).1]
    rfl

end Run

end Engine

namespace Sample

theorem storing_contains_itself :
    (passingEngine true).LooksUpParsed ∧
      (passingEngine true).RunsOver request (.start ()) [passOn true] ∧
      ∃ progress,
        (passingEngine true).Reaches [passOn true]
          ((passingEngine true).opening "run" request (.start ()) () [passOn true]) []
          progress ∧
        progress.data.isCircular = true ∧
        ∃ failure, Template.resolve "See {data}" progress.data = .error failure := by
  have hparsed : (passingEngine true).LooksUpParsed := passingEngine_looksUpParsed _
  have hruns : (passingEngine true).RunsOver request (.start ()) [passOn true] :=
    ⟨passing true, ⟨rfl, rfl⟩, rfl⟩
  have hreach : ∃ progress, (passingEngine true).Reaches [passOn true]
      ((passingEngine true).opening "run" request (.start ()) () [passOn true]) [] progress ∧
        Engine.HasStoredInput [passOn true] progress.record :=
    ⟨_, .step rfl (.refl _ _), passOn true, List.mem_cons_self, ⟨_, rfl, rfl, Or.inl rfl, by decide⟩,
      _, List.mem_cons_self, rfl⟩
  obtain ⟨progress, hreach, hstored⟩ := hreach
  obtain ⟨-, hcircular, -, hresolve⟩ :=
    Engine.isCircular_iff_input_stored rfl hparsed hruns hreach
  exact ⟨hparsed, hruns, progress, hreach, hcircular.mpr ⟨rfl, hstored⟩,
    (hresolve "See {data}").1.mpr ⟨⟨rfl, hstored⟩, "See ".toList, [], rfl⟩⟩

end Sample

end Runbook
