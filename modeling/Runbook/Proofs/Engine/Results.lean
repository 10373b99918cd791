import Runbook.Proofs.Engine.WriteBack

/-!
# Whether results stay as they are

The record of a run never loses a result. But a result that is the runtime data by reference reads as
these do at the time, and so it stays what it was just as long as no step puts something else into them.
-/

namespace Runbook

/-- What an outcome tells when it is read: a value, the runtime data as they are then, or an error. -/
inductive Reading where
  | value (v : Value)
  | data (data : Data)
  | failure (error : Option String)

def Outcome.readIn (data : Data) : Outcome → Reading
  | .success (.value v) => .value v
  | .success .whole => .data data
  | .failure error => .failure error

theorem Outcome.readIn_eq_iff {outcome : Outcome} {data other : Data} :
    outcome.readIn data = outcome.readIn other ↔ (outcome = .success .whole → data = other) := by
  rcases outcome with (v | _) | error <;> simp [readIn]

/-- A step with this result puts something else into the runtime data. -/
def Step.Rewrites (step : Step) (result : StepResult) (data : Data) : Prop :=
  ∃ config d, step.config = .dataTransformation config ∧ config.replaceData = true ∧
    result.outcome = .success d ∧ Entries.get? data config.target ≠ some d

/-- A step is a transformation of no known kind that finds the runtime data as a whole for its input. -/
def Step.PassesOnWhole (step : Step) (data : Data) : Prop :=
  ∃ config, step.config = .dataTransformation config ∧
    config.transformation ∉ ["filter", "map", "aggregate"] ∧
    (Entries.get? data config.target = some .whole ∨
      (config.source = none ∨ config.source = some "") ∧
        Entries.get? data Data.defaultField = none)

namespace Engine

variable {σ τ : Type} {engine : Engine σ τ}

theorem applyOutput_eq_self_iff {step : Step} {result : StepResult} {data : Data} :
    applyOutput step result data = data ↔ ¬ step.Rewrites result data := by
  constructor
  · rintro hsame ⟨config, d, hconfig, hreplace, houtcome, hother⟩
    rw [applyOutput_of_replace hconfig hreplace houtcome] at hsame
    exact hother ((Entries.put_eq_self_iff data config.target d).mp hsame)
  · intro hnone
    rcases applyOutput_cases step result data with
      hsame | ⟨config, d, hconfig, hreplace, houtcome, hput⟩
    · exact hsame
    · rw [hput, Entries.put_eq_self_iff]
      exact Classical.byContradiction fun hother =>
        hnone ⟨config, d, hconfig, hreplace, houtcome, hother⟩

/-! ### Results of steps -/

/-- At this point a step gets a result, with which the run goes on to the next point. -/
structure Files (engine : Engine σ τ) (step : Step) (point : Progress σ τ) (result : StepResult)
    (next : Progress σ τ) : Prop where
  taken : engine.takeStep step point = .continued next
  invoked : ∃ after, engine.invoke point.record point.data step point.stage
    = (.answered (.ok result), after)

section Files

variable {step : Step} {point next : Progress σ τ} {result : StepResult}

theorem exists_files (htaken : engine.takeStep step point = .continued next) :
    ∃ result, engine.Files step point result next := by
  obtain ⟨result, after, -, hinvoke, -, -⟩ := takeStep_eq_continued htaken
  exact ⟨result, htaken, after, hinvoke⟩

theorem Files.next_eq (h : engine.Files step point result next) :
    next.record.results = point.record.results ++ [(step.id, result)] ∧
      next.data = applyOutput step result point.data := by
  obtain ⟨after, hinvoked⟩ := h.invoked
  obtain ⟨found, finished, record, hinvoke, hfiled, rfl⟩ := takeStep_eq_continued h.taken
  obtain rfl : found = result := by
    rw [hinvoke] at hinvoked
    simpa using (Prod.mk.inj hinvoked).1
  rw [record_recordStep, data_recordStep]
  exact ⟨by rw [(Record.eq_of_addResult hfiled).2], rfl⟩

theorem Files.rewrites_iff (h : engine.Files step point result next) :
    step.Rewrites result point.data ↔ next.data ≠ point.data := by
  rw [h.next_eq.2, Ne, applyOutput_eq_self_iff, Classical.not_not]

theorem Files.outcome_eq_whole_iff (hstandard : engine.registry.IsStandard)
    (h : engine.Files step point result next) :
    result.outcome = .success .whole ↔
      result.outcome.isSuccess = true ∧ step.PassesOnWhole point.data := by
  obtain ⟨after, hinvoked⟩ := h.invoked
  obtain ⟨collaborators, htransformation⟩ := hstandard .dataTransformation
  by_cases hconfig : ∃ config, step.config = .dataTransformation config
  · obtain ⟨config, hconfig⟩ := hconfig
    have hrun : ∀ d, result.outcome = .success d → config.run point.data = .ok d :=
      fun d => run_eq_of_invoke_ok htransformation hinvoked hconfig
    have hpasses : step.PassesOnWhole point.data ↔ config.run point.data = .ok .whole := by
      rw [TransformationConfig.run_eq_whole_iff, TransformationConfig.kind?_eq_none_iff,
        TransformationConfig.input_eq_whole_iff, TransformationConfig.givenSource?_eq_none_iff]
      simp [Step.PassesOnWhole, hconfig]
    rw [hpasses]
    constructor
    · intro houtcome
      exact ⟨by rw [houtcome]; rfl, hrun _ houtcome⟩
    · rintro ⟨hsuccess, hwhole⟩
      cases houtcome : result.outcome with
      | failure error => simp [houtcome, Outcome.isSuccess] at hsuccess
      | success d =>
        obtain rfl : d = .whole := by simpa [hwhole, eq_comm] using hrun d houtcome
        rfl
  · -- The executors of the other types give values of their own.
    obtain ⟨services, hfound⟩ := hstandard step.type
    have hother := not_exists.mp hconfig
    have hself := Executor.selfContained_of_run_standard step point.data hother
      (run_of_invoke_ok hfound hinvoked)
    constructor
    · intro houtcome
      simp [Outcome.SelfContained, houtcome] at hself
    · rintro ⟨-, config, hpasses, -⟩
      exact absurd hpasses (hother config)

end Files

/-- Data change in a run only where a step rewrites them. -/
theorem Reaches.data_eq {steps rest : List Step} {progress last : Progress σ τ}
    (h : engine.Reaches steps progress rest last)
    (hnone : ∀ step later point result next, engine.Reaches steps progress (step :: later) point →
      engine.Files step point result next → ¬ step.Rewrites result point.data) :
    last.data = progress.data := by
  induction h with
  | refl => rfl
  | step htaken hrest ih =>
    obtain ⟨result, hfiles⟩ := exists_files htaken
    have hfirst := hnone _ _ _ _ _ (.refl _ _) hfiles
    rw [hfiles.rewrites_iff, Ne, Classical.not_not] at hfirst
    rw [← hfirst]
    exact ih fun step later point result next hreach => hnone _ _ _ _ _ (.step htaken hreach)

/-! ### Whole runs -/

section Run

variable (engine) (id : String) (request : RunRequest) (stage : Stage σ) (sink : τ)

/-- What can be seen of a run from a point on: record and data at each point that follows, and in the
end. -/
inductive ShowsFrom (rest : List Step) (point : Progress σ τ) : Record → Data → Prop where
  | later {left : List Step} {last : Progress σ τ} (hreach : engine.Reaches rest point left last) :
      ShowsFrom rest point last.record last.data
  | final {record : Record} {data : Data}
      (hending : (engine.execute id request stage sink).ending = .finished record data) :
      ShowsFrom rest point record data

/-- Each step has the result that its executor returned for it, whenever one looks at the run from then
on, and the result reads as it did when it was returned. -/
def KeepsResults : Prop :=
  ∀ step later point result next,
    engine.ComesTo id request stage sink (step :: later) point →
      engine.Files step point result next →
        ∀ record data, engine.ShowsFrom id request stage sink later next record data →
          Entries.get? record.results step.id = some result ∧
            result.outcome.readIn data = result.outcome.readIn point.data

variable {engine} {id} {request} {stage} {sink}

theorem ShowsFrom.exists_point (hparsed : engine.LooksUpParsed) {rest : List Step}
    {point : Progress σ τ} {record : Record} {data : Data}
    (h : engine.ShowsFrom id request stage sink rest point record data)
    (hpoint : engine.ComesTo id request stage sink rest point) :
    ∃ left last, engine.Reaches rest point left last ∧ last.record.results = record.results ∧
      last.data = data := by
  cases h with
  | later hreach => exact ⟨_, _, hreach, rfl, rfl⟩
  | final hending =>
    obtain ⟨left, last, course, hreach, -, hresults, hdata⟩ :=
      ComesTo.exists_final hparsed hpoint hending
    exact ⟨left, last, hreach, hresults.symm, hdata.symm⟩

theorem ComesTo.next {step : Step} {later : List Step} {point next : Progress σ τ}
    (h : engine.ComesTo id request stage sink (step :: later) point)
    (htaken : engine.takeStep step point = .continued next) :
    engine.ComesTo id request stage sink later next := by
  obtain ⟨order, hruns, hreach⟩ := h
  exact ⟨order, hruns, hreach.trans (.step htaken (.refl _ _))⟩

theorem Files.get?_results {step : Step} {later left : List Step} {point next last : Progress σ τ}
    {result : StepResult} (hparsed : engine.LooksUpParsed)
    (hpoint : engine.ComesTo id request stage sink (step :: later) point)
    (hfiles : engine.Files step point result next) (hreach : engine.Reaches later next left last) :
    Entries.get? last.record.results step.id = some result := by
  obtain ⟨order, hruns, hbefore⟩ := hpoint.next hfiles.taken
  have hids := hruns.nodup_ids hparsed
  obtain ⟨taken, hsplit, haccounts⟩ := (hbefore.trans hreach).accounts hids
  have hkeys : (Entries.keys last.record.results).Nodup := by
    rw [haccounts.results]
    rw [← hsplit, List.map_append] at hids
    exact (List.nodup_append.mp hids).1
  have hfiled : (step.id, result) ∈ next.record.results := by
    rw [hfiles.next_eq.1]
    exact List.mem_append_right _ List.mem_cons_self
  exact Entries.get?_of_mem hkeys (hreach.results_prefix.subset hfiled)

theorem keepsResults_iff (hparsed : engine.LooksUpParsed) :
    engine.KeepsResults id request stage sink ↔
      ∀ step later point result next,
        engine.ComesTo id request stage sink (step :: later) point →
          engine.Files step point result next → result.outcome = .success .whole →
            ∀ writer left place written after,
              engine.Reaches (step :: later) point (writer :: left) place →
                engine.Files writer place written after →
                  ¬ writer.Rewrites written place.data := by
  constructor
  · intro hkeeps step later point result next hpoint hfiles hwhole
    have hsame : ∀ left last, engine.Reaches later next left last → last.data = point.data :=
      fun left last hreach => Outcome.readIn_eq_iff.mp
        (hkeeps step later point result next hpoint hfiles _ _ (.later hreach)).2 hwhole
    intro writer left place written after hreach hwritten
    rw [hwritten.rewrites_iff, Ne, Classical.not_not]
    cases hreach with
    | refl =>
      -- The step itself is the writer.
      have hnext : after = next := Course.continued.inj (hwritten.taken.symm.trans hfiles.taken)
      rw [hnext]
      exact hsame _ _ (.refl _ _)
    | step htaken hrest =>
      obtain rfl := Course.continued.inj (htaken.symm.trans hfiles.taken)
      rw [hsame _ _ hrest, hsame _ _ (hrest.trans (.step hwritten.taken (.refl _ _)))]
  · intro hnone step later point result next hpoint hfiles record data hshows
    obtain ⟨left, last, hreach, hresults, rfl⟩ :=
      hshows.exists_point hparsed (hpoint.next hfiles.taken)
    refine ⟨?_, Outcome.readIn_eq_iff.mpr fun hwhole => ?_⟩
    · rw [← hresults]
      exact hfiles.get?_results hparsed hpoint hreach
    · exact (Reaches.step hfiles.taken hreach).data_eq
        (hnone step later point result next hpoint hfiles hwhole)

end Run

/-- **When results stay as they were returned.** Every result of a run stays with its step and reads as
it did, at every later point and in the end, exactly if no step puts something else into the runtime data
from when a step is taken that gives these out as a whole. With the standard executors, such a step is a
successful transformation of no known kind that finds the runtime data themselves for its input. -/
theorem keepsResults_iff_whole_not_rewritten (hparsed : engine.LooksUpParsed) (id : String)
    (request : RunRequest) (stage : Stage σ) (sink : τ) :
    (engine.KeepsResults id request stage sink ↔
      ∀ step later point result next,
        engine.ComesTo id request stage sink (step :: later) point →
          engine.Files step point result next → result.outcome = .success .whole →
            ∀ writer left place written after,
              engine.Reaches (step :: later) point (writer :: left) place →
                engine.Files writer place written after →
                  ¬ writer.Rewrites written place.data) ∧
      (engine.registry.IsStandard → ∀ step point result next, engine.Files step point result next →
        (result.outcome = .success .whole ↔
          result.outcome.isSuccess = true ∧ step.PassesOnWhole point.data)) :=
  ⟨keepsResults_iff hparsed, fun hstandard _ _ _ _ hfiles => hfiles.outcome_eq_whole_iff hstandard⟩

end Engine

namespace Sample

theorem passing_keepsResults :
    (passingEngine false).LooksUpParsed ∧ (passingEngine false).registry.IsStandard ∧
      (passingEngine false).KeepsResults "run" request (.start ()) () ∧
      ∃ point result next,
        (passingEngine false).ComesTo "run" request (.start ()) () [passOn false] point ∧
        (passingEngine false).Files (passOn false) point result next ∧
        (passOn false).PassesOnWhole point.data := by
  have hparsed : (passingEngine false).LooksUpParsed :=
    passingEngine_looksUpParsed _
  have hstandard : (passingEngine false).registry.IsStandard := Registry.isStandard_standard _ _
  have hruns : (passingEngine false).RunsOver request (.start ()) [passOn false] :=
    ⟨passing false, ⟨rfl, rfl⟩, rfl⟩
  refine ⟨hparsed, hstandard, ?_, ?_⟩
  · refine (Engine.keepsResults_iff_whole_not_rewritten hparsed _ _ _ _).1.mpr ?_
    rintro step later point result next ⟨order, horder, hbefore⟩ - - writer left place written after
      hreach - ⟨config, d, hconfig, hreplace, -⟩
    obtain rfl := hruns.unique horder
    have hwriter := (hbefore.trans hreach).suffix.subset List.mem_cons_self
    obtain rfl := List.mem_singleton.mp hwriter
    obtain rfl := StepConfig.dataTransformation.inj hconfig
    cases hreplace
  · have hfiles : ∃ result next, (passingEngine false).Files (passOn false)
        ((passingEngine false).opening "run" request (.start ()) () [passOn false]) result next ∧
          result.outcome = .success .whole :=
      ⟨_, _, ⟨rfl, _, rfl⟩, rfl⟩
    obtain ⟨result, next, hfiles, houtcome⟩ := hfiles
    exact ⟨_, result, next, ⟨_, hruns, .refl _ _⟩, hfiles,
      ((hfiles.outcome_eq_whole_iff hstandard).mp houtcome).2⟩

def narrow : Step where
  id := "narrow"
  name := none
  dependencies := []
  timeout := none
  config := .dataTransformation
    { transformation := "filter"
      conditions := [{ field := "open", value := .bool true }]
      mappings := []
      groupBy := none
      source := some "items"
      replaceData := true }

def narrowing : Definition where
  id := "narrowing"
  name := none
  steps := [passOn false, narrow]

def itemsRequest : RunRequest :=
  { request with payload := .object [("items", .list [
      .object [("open", .bool true)], .object [("open", .bool false)]])] }

theorem narrowing_not_keepsResults :
    (engineFor narrowing).LooksUpParsed ∧
      ¬ (engineFor narrowing).KeepsResults "run" itemsRequest (.start ()) () := by
  have hparsed : (engineFor narrowing).LooksUpParsed :=
    engineFor_looksUpParsed ⟨narrowing.toValue, rfl⟩
  refine ⟨hparsed, fun hkeeps => ?_⟩
  have hruns : (engineFor narrowing).RunsOver itemsRequest (.start ()) [passOn false, narrow] :=
    ⟨narrowing, ⟨rfl, rfl⟩, rfl⟩
  exact (Engine.keepsResults_iff hparsed).mp hkeeps _ _ _ _ _ ⟨_, hruns, .refl _ _⟩ ⟨rfl, _, rfl⟩ rfl
    narrow _ _ _ _ (.step rfl (.refl _ _)) ⟨rfl, _, rfl⟩ ⟨_, _, rfl, rfl, rfl, nofun⟩

end Sample

end Runbook
