import Runbook.Proofs.Engine.Reordering
import Runbook.Proofs.Engine.Results

/-!
# Write-backs to one field

When all write-backs of a workflow go to the same field, the field holds the fold of their transformations
over the steps taken, where one that fails leaves it as it is. The rest of the runtime data does not
change. Only a deadline beyond all times comes between: a step that has one fails without having been
started, whatever its transformation would have made of the field.
-/

namespace Runbook

variable {σ τ : Type}

/-! ### Write-backs as functions -/

/-- What a transformation comes to on its own. -/
def TransformationConfig.outcome (config : TransformationConfig) (d : Datum) : Outcome :=
  match config.apply d with
  | .ok output => .success output
  | .error error => .failure (some error.message)

/-- What becomes of a field that a transformation replaces: its output, or nothing new if it fails. -/
def TransformationConfig.rewrite (config : TransformationConfig) (d : Datum) : Datum :=
  match config.apply d with
  | .ok output => output
  | .error _ => d

/-- The transformation with which a step replaces its input, if it does that. -/
def Step.writeBack? (step : Step) : Option TransformationConfig :=
  match step.config with
  | .dataTransformation config => if config.replaceData then some config else none
  | _ => none

/-- What the write-backs of some steps make of a field, one after the other. -/
def foldWriteBacks (steps : List Step) (d : Datum) : Datum :=
  (steps.filterMap Step.writeBack?).foldl (fun d config => config.rewrite d) d

theorem foldWriteBacks_concat_some {step : Step} {config : TransformationConfig}
    (h : step.writeBack? = some config) (steps : List Step) (d : Datum) :
    foldWriteBacks (steps ++ [step]) d = config.rewrite (foldWriteBacks steps d) := by
  simp [foldWriteBacks, h]

theorem foldWriteBacks_concat_none {step : Step} (h : step.writeBack? = none) (steps : List Step)
    (d : Datum) : foldWriteBacks (steps ++ [step]) d = foldWriteBacks steps d := by
  simp [foldWriteBacks, h]

theorem Step.eq_of_writeBack? {step : Step} {config : TransformationConfig}
    (h : step.writeBack? = some config) :
    step.config = .dataTransformation config ∧ config.replaceData = true := by
  unfold writeBack? at h
  split at h
  · next found hconfig =>
    split at h
    · next hreplace =>
      obtain rfl := Option.some.inj h
      exact ⟨hconfig, hreplace⟩
    · cases h
  · cases h

theorem Step.keepsData_of_writeBack? {step : Step} (h : step.writeBack? = none) :
    step.KeepsData := by
  intro config hconfig
  cases hreplace : config.replaceData with
  | false => rfl
  | true => simp [writeBack?, hconfig, hreplace] at h

theorem TransformationConfig.run_of_get?_target {config : TransformationConfig} {data : Data}
    {d : Datum} (h : Entries.get? data config.target = some d) : config.run data = config.apply d := by
  rw [run, input_of_get?_target h]
  rfl

theorem TransformationError.message_ne_empty (error : TransformationError) :
    error.message ≠ "" := by
  cases error with
  | sourceMissing source =>
    intro h
    change "Transformation source field not found: " ++ source = "" at h
    simp at h
  | notList => decide
  | groupByMissing => decide

/-- The failure of a transformation is told in its own words. -/
theorem TransformationError.text_toFailure (error : TransformationError) :
    (stepFailure error.toFailure).text = error.message := by
  have hwords : error.message.isEmpty = false := by
    rw [String.isEmpty_eq_false_iff]
    exact error.message_ne_empty
  simp only [toFailure, stepFailure, Failure.text, Failure.message, hwords]
  rfl

theorem TransformationConfig.eq_of_apply_error {config : TransformationConfig} {d : Datum}
    {error : TransformationError} (h : config.apply d = .error error) :
    error = .notList ∨ error = .groupByMissing := by
  have hitems : ∀ {α : Type} (f : List Value → α),
      (items d).map f = .error error → error = .notList := by
    intro α f hf
    unfold items at hf
    split at hf
    · cases hf
    · exact (Except.error.inj hf).symm
  unfold apply at h
  split at h
  · exact Or.inl (hitems _ h)
  · exact Or.inl (hitems _ h)
  · split at h
    · exact Or.inl (hitems _ h)
    · exact Or.inr (Except.error.inj h).symm
  · cases h

/-- No transformation ends as one whose deadline is beyond all times. -/
theorem TransformationConfig.outcome_ne_oversized (config : TransformationConfig) (d : Datum) :
    config.outcome d ≠ .failure (some Executor.oversized.text) := by
  unfold outcome
  cases happly : config.apply d with
  | ok output => simp
  | error error =>
    simp only [ne_eq, Outcome.failure.injEq, Option.some.injEq]
    rcases eq_of_apply_error happly with rfl | rfl <;> decide

/-! ### Executors -/

namespace Executor

variable {collaborators : Collaborators σ} {type : StepType} {clock : σ → Instant}
  {deadlines : Deadlines} {step : Step} {data : Data} {stage : Stage σ}

/-- A transformation that its deadline lets start has the outcome that it has on its own. -/
theorem outcome_of_run_transformation {config : TransformationConfig} {d : Datum}
    (hconfig : step.config = .dataTransformation config)
    (hvalue : Entries.get? data config.target = some d)
    (hstarts : LetsStart (deadlines.effective step)) {result : StepResult} {after : Stage σ}
    (hrun : (standard collaborators type).run clock deadlines step data stage
      = (.answered (.result result), after)) : result.outcome = config.outcome d := by
  obtain ⟨found, finished, hfound, -, hattempt⟩ :=
    attempt_of_run_answered (procedure_standard collaborators type) hrun
  obtain rfl := Returned.result.inj hfound
  have hexecute : execute collaborators step data (deadlines.effective step)
      = DataTransformation.execute config data := by
    funext stage
    simp only [execute, hconfig]
  rw [hexecute] at hattempt
  have hsettled := ((hattempt.reply_of_letsStart hstarts step).resolve_right
    fun hhung => DataTransformation.returns_execute data config _ hhung.1).symm
  rw [DataTransformation.execute, TransformationConfig.run_of_get?_target hvalue] at hsettled
  unfold TransformationConfig.outcome
  cases happly : config.apply d with
  | ok output =>
    rw [happly] at hsettled
    exact (Reply.answered.inj hsettled).symm
  | error error =>
    rw [happly] at hsettled
    exact (error.text_toFailure ▸ Reply.answered.inj hsettled).symm

end Executor

/-! ### Data and results -/

/-- The results of the write-backs among some steps: each has the outcome of its transformation for what
the earlier ones have made of the field. -/
def FiledWriteBacks (taken : List Step) (d : Datum) (results : Entries StepResult) : Prop :=
  ∀ before step after config, taken = before ++ step :: after → step.writeBack? = some config →
    ∃ result, Entries.get? results step.id = some result ∧
      result.outcome = config.outcome (foldWriteBacks before d)

/-- Data and results that some steps leave whose write-backs are a fold over one field. -/
structure FoldedTo (initial : Data) (field : String) (d : Datum) (taken : List Step) (data : Data)
    (results : Entries StepResult) : Prop where
  value : Entries.get? data field = some (foldWriteBacks taken d)
  others : ∀ other, other ≠ field → Entries.get? data other = Entries.get? initial other
  order : Entries.keys data = Entries.keys initial
  steps : Entries.keys results = taken.map (·.id)
  filed : FiledWriteBacks taken d results

theorem foldedTo_put {initial : Data} {field : String} {d : Datum}
    (hfield : Entries.get? initial field = some d) {taken : List Step}
    {results : Entries StepResult} (hsteps : Entries.keys results = taken.map (·.id))
    (hfiled : FiledWriteBacks taken d results) :
    FoldedTo initial field d taken (Entries.put initial field (foldWriteBacks taken d)) results where
  value := Entries.get?_put_self _ _ _
  others other hother := Entries.get?_put_of_ne _ _ hother.symm
  order := by
    have hkey : field ∈ Entries.keys initial :=
      List.mem_map.mpr ⟨_, Entries.mem_of_get? hfield, rfl⟩
    rw [Entries.keys_put, if_pos hkey]
  steps := hsteps
  filed := hfiled

theorem FiledWriteBacks.concat {taken : List Step} {d : Datum} {results : Entries StepResult}
    (h : FiledWriteBacks taken d results) {step : Step} {result : StepResult}
    (hfresh : step.id ∉ Entries.keys results)
    (hresult : ∀ config, step.writeBack? = some config →
      result.outcome = config.outcome (foldWriteBacks taken d)) :
    FiledWriteBacks (taken ++ [step]) d (results ++ [(step.id, result)]) := by
  intro before other after config hsplit hwrites
  rw [← Entries.put_of_fresh hfresh]
  -- The split is at the new step, or else before it.
  rcases List.eq_nil_or_concat after with rfl | ⟨middle, last, rfl⟩
  · obtain ⟨rfl, hstep⟩ := List.append_inj' hsplit rfl
    obtain rfl := List.singleton_inj.mp hstep
    exact ⟨result, Entries.get?_put_self _ _ _, hresult config hwrites⟩
  · have hfront : taken ++ [step] = (before ++ other :: middle) ++ [last] := by
      simpa using hsplit
    obtain ⟨rfl, -⟩ := List.append_inj' hfront rfl
    obtain ⟨found, hfound, houtcome⟩ := h before other middle config rfl hwrites
    have hne : step.id ≠ other.id := by
      intro hid
      have hmem : other.id ∈ Entries.keys results :=
        List.mem_map.mpr ⟨_, Entries.mem_of_get? hfound, rfl⟩
      exact hfresh (hid ▸ hmem)
    exact ⟨found, by rw [Entries.get?_put_of_ne _ _ hne, hfound], houtcome⟩

namespace Engine

variable {engine : Engine σ τ} {collaborators : Collaborators σ}

/-- What a transformation makes of its field is put there, also when that is what it was. -/
theorem applyOutput_of_outcome {step : Step} {config : TransformationConfig}
    (hwrites : step.writeBack? = some config) {result : StepResult} {d : Datum}
    (houtcome : result.outcome = config.outcome d) {data : Data}
    (hvalue : Entries.get? data config.target = some d) :
    applyOutput step result data = Entries.put data config.target (config.rewrite d) := by
  obtain ⟨hconfig, hreplace⟩ := Step.eq_of_writeBack? hwrites
  unfold TransformationConfig.outcome at houtcome
  unfold TransformationConfig.rewrite
  cases happly : config.apply d with
  | ok output =>
    rw [happly] at houtcome
    exact applyOutput_of_replace hconfig hreplace houtcome data
  | error error =>
    rw [happly] at houtcome
    rw [(Entries.put_eq_self_iff _ _ _).mpr hvalue]
    simp only [applyOutput, hconfig, houtcome]

section Run

variable {id : String} {request : RunRequest} {stage : Stage σ} {sink : τ}
  {order taken rest : List Step} {step : Step} {point next : Progress σ τ} {field : String}
  {d : Datum} (htransformation : engine.registry.find? .dataTransformation
    = some (.standard collaborators .dataTransformation))
include htransformation

theorem find?_of_writeBack? {config : TransformationConfig} (hwrites : step.writeBack? = some config) :
    engine.registry.find? step.type = some (.standard collaborators .dataTransformation) := by
  rw [Step.type, (Step.eq_of_writeBack? hwrites).1]
  exact htransformation

/-- One more step of a fold. -/
theorem folded_of_takeStep
    (htarget : ∀ config, step.writeBack? = some config → config.target = field)
    (hstarts : step.writeBack?.isSome = true →
      Executor.LetsStart (engine.registry.deadlines.effective step))
    {initial : Data} (hdata : point.data = Entries.put initial field (foldWriteBacks taken d))
    (hfiled : FiledWriteBacks taken d point.record.results)
    (htaken : engine.takeStep step point = .continued next) :
    next.data = Entries.put initial field (foldWriteBacks (taken ++ [step]) d) ∧
      FiledWriteBacks (taken ++ [step]) d next.record.results := by
  obtain ⟨result, after, record, hinvoke, hadded, rfl⟩ := takeStep_eq_continued htaken
  obtain ⟨hfresh, hrecord⟩ := Record.eq_of_addResult hadded
  have hvalue : Entries.get? point.data field = some (foldWriteBacks taken d) := by
    rw [hdata, Entries.get?_put_self]
  have hresult : ∀ config, step.writeBack? = some config →
      result.outcome = config.outcome (foldWriteBacks taken d) := by
    intro config hwrites
    have hrun := run_of_invoke_ok (find?_of_writeBack? htransformation hwrites) hinvoke
    exact Executor.outcome_of_run_transformation (Step.eq_of_writeBack? hwrites).1
      (by rw [htarget config hwrites, hvalue]) (hstarts (by rw [hwrites]; rfl)) hrun
  refine ⟨?_, ?_⟩
  · rw [data_recordStep]
    cases hwrites : step.writeBack? with
    | none =>
      rw [applyOutput_of_keepsData (Step.keepsData_of_writeBack? hwrites), hdata,
        foldWriteBacks_concat_none hwrites]
    | some config =>
      have htarget := htarget config hwrites
      rw [applyOutput_of_outcome hwrites (hresult config hwrites) (by rw [htarget, hvalue]), htarget,
        hdata, Entries.put_put, foldWriteBacks_concat_some hwrites]
  · rw [record_recordStep, hrecord]
    exact hfiled.concat hfresh hresult

/-- A step with a deadline beyond all times has failed, and the run goes on. -/
theorem exists_takeStep_of_oversized (hids : (order.map (·.id)).Nodup)
    (hreach : engine.Reaches order (engine.opening id request stage sink order) (step :: rest) point)
    {config : TransformationConfig} (hwrites : step.writeBack? = some config) {seconds : Number}
    (hdeadline : seconds ∈ binding? (engine.registry.deadlines.effective step))
    (hpositive : seconds.isNonPositive = false) (hlarge : seconds.isOversized = true) :
    ∃ next result, engine.takeStep step point = .continued next ∧
      Entries.get? next.record.results step.id = some result ∧
      result.outcome = .failure (some Executor.oversized.text) := by
  obtain ⟨result, after, hrun, houtcome⟩ : ∃ result after,
      (Executor.standard collaborators .dataTransformation).run engine.clock
          engine.registry.deadlines step point.data (warnPending point.stage point.record step)
        = (.answered (.result result), after) ∧
      result.outcome = .failure (some Executor.oversized.text) :=
    Executor.run_of_oversized (Executor.procedure_standard collaborators .dataTransformation)
      hdeadline hpositive hlarge _ _ _
  have hinvoke : engine.invoke point.record point.data step point.stage
      = (.answered (.ok result), after) := by
    rw [invoke_eq_judged (find?_of_writeBack? htransformation hwrites), hrun]
    rfl
  obtain ⟨taken, rfl, haccounts⟩ := hreach.accounts hids
  have hfiled := haccounts.addResult hids result
  obtain ⟨hfresh, -⟩ := Record.eq_of_addResult hfiled
  refine ⟨_, result, takeStep_of_filed hinvoke hfiled, ?_, houtcome⟩
  rw [record_recordStep, ← Entries.put_of_fresh hfresh, Entries.get?_put_self]

variable (hparsed : engine.LooksUpParsed) {definition : Definition}
  (hloads : engine.Loads request.workflowId stage.world definition)
  (htarget : ∀ step ∈ definition.steps, ∀ config, step.writeBack? = some config →
    config.target = field)
  (hfield : Entries.get? request.initialData field = some d)
  (hpositive : ∀ step ∈ definition.steps, step.writeBack?.isSome = true →
    ∀ seconds ∈ binding? (engine.registry.deadlines.effective step), seconds.isNonPositive = false)
include hparsed hloads htarget hfield hpositive

/-- The points of a run at which no write-back has had a deadline beyond all times. -/
theorem foldedTo_of_comesTo
    (hstarts : ∀ step rest point, engine.ComesTo id request stage sink (step :: rest) point →
      step.writeBack?.isSome = true →
        ∀ seconds ∈ binding? (engine.registry.deadlines.effective step),
          seconds.isOversized = false)
    (hpoint : engine.ComesTo id request stage sink rest point) :
    ∃ taken, engine.RunsOver request stage (taken ++ rest) ∧
      FoldedTo request.initialData field d taken point.data point.record.results := by
  obtain ⟨order, hruns, hreach⟩ := hpoint
  obtain ⟨taken, hsplit, -, hdata, hfiled⟩ := hreach.keeps (fun rest point =>
    ∃ taken, taken ++ rest = order ∧
      engine.Reaches order (engine.opening id request stage sink order) rest point ∧
      point.data = Entries.put request.initialData field (foldWriteBacks taken d) ∧
      FiledWriteBacks taken d point.record.results)
    (by
      rintro step rest point next ⟨taken, hsplit, hreach, hdata, hfiled⟩ htaken
      have hstep : step ∈ definition.steps := by
        rw [← mem_of_runsOver hruns hloads, ← hsplit]
        exact List.mem_append_right taken List.mem_cons_self
      have hletsStart : step.writeBack?.isSome = true →
          Executor.LetsStart (engine.registry.deadlines.effective step) :=
        fun hwrites seconds hseconds => ⟨hpositive step hstep hwrites seconds hseconds,
          hstarts step rest point ⟨order, hruns, hreach⟩ hwrites seconds hseconds⟩
      obtain ⟨hdata', hfiled'⟩ := folded_of_takeStep htransformation (htarget step hstep) hletsStart
        hdata hfiled htaken
      exact ⟨taken ++ [step], by simpa using hsplit, hreach.trans (.step htaken (.refl _ _)), hdata',
        hfiled'⟩)
    ⟨[], rfl, .refl _ _, ((Entries.put_eq_self_iff _ _ _).mpr hfield).symm,
      fun before step after config hsplit => by simp at hsplit⟩
  obtain ⟨accounted, hsplit', haccounts⟩ := hreach.accounts (hruns.nodup_ids hparsed)
  obtain rfl : accounted = taken := List.append_cancel_right (hsplit'.trans hsplit.symm)
  refine ⟨accounted, hsplit ▸ hruns, ?_⟩
  rw [hdata]
  exact foldedTo_put hfield haccounts.results hfiled

/-- **Write-backs to one field are a fold, but for one kind of deadline.** With the standard executor for
transformations, let all write-backs of a workflow go to one field, which the runtime data have at first,
and none of them have a deadline that has passed already. At every point of a run, and in its final
record, the field holds what the write-backs before make of it one after the other, each of these has the
result of its own transformation, and the rest of the data is as it was, exactly when no write-back that
the run comes to has a deadline beyond all times. -/
theorem writeBacks_fold_iff_none_oversized {submission : Submission}
    (haccept : submission.accept = .ok request) (id : String) (sink : τ) :
    ((∀ rest point, engine.ComesTo id request stage sink rest point →
        ∃ taken, engine.RunsOver request stage (taken ++ rest) ∧
          FoldedTo request.initialData field d taken point.data point.record.results) ∧
      ∀ record data, (engine.run id submission stage sink).ending = .finished record data →
        ∃ taken rest, engine.RunsOver request stage (taken ++ rest) ∧
          FoldedTo request.initialData field d taken data record.results) ↔
      ∀ step rest point, engine.ComesTo id request stage sink (step :: rest) point →
        step.writeBack?.isSome = true →
          ∀ seconds ∈ binding? (engine.registry.deadlines.effective step),
            seconds.isOversized = false := by
  rw [run_of_accept haccept]
  constructor
  · rintro ⟨hpoints, -⟩ step rest point hpoint hwrites seconds hdeadline
    by_contra hlarge
    rw [Bool.not_eq_false] at hlarge
    obtain ⟨config, hconfig⟩ := Option.isSome_iff_exists.mp hwrites
    obtain ⟨order, hruns, hreach⟩ := hpoint
    have hstep : step ∈ definition.steps :=
      (mem_of_runsOver hruns hloads).mp (hreach.suffix.subset List.mem_cons_self)
    obtain ⟨next, result, htaken, hresult, houtcome⟩ := exists_takeStep_of_oversized htransformation
      (hruns.nodup_ids hparsed) hreach hconfig hdeadline (hpositive step hstep hwrites _ hdeadline)
      hlarge
    -- At the next point the result of the step is not the one that its transformation has.
    obtain ⟨taken, hruns', hfolded⟩ := hpoints rest next
      ⟨order, hruns, hreach.trans (.step htaken (.refl _ _))⟩
    obtain ⟨before, rfl⟩ := hreach.suffix
    have hsplit : taken = before ++ [step] := by
      have horder := hruns.unique hruns'
      rw [List.append_cons] at horder
      exact List.append_cancel_right horder
    obtain ⟨found, hfound, houtcome'⟩ := hfolded.filed before step [] config hsplit hconfig
    obtain rfl := Option.some.inj (hfound.symm.trans hresult)
    exact config.outcome_ne_oversized _ (houtcome'.symm.trans houtcome)
  · intro hstarts
    have hpoints : ∀ rest point, engine.ComesTo id request stage sink rest point →
        ∃ taken, engine.RunsOver request stage (taken ++ rest) ∧
          FoldedTo request.initialData field d taken point.data point.record.results :=
      fun _ _ => foldedTo_of_comesTo htransformation hparsed hloads htarget hfield hpositive hstarts
    refine ⟨hpoints, fun record data hending => ?_⟩
    obtain ⟨order, hruns⟩ := exists_runsOver hparsed hloads
    obtain ⟨left, last, course, hreach, -, hresults, rfl⟩ :=
      ComesTo.exists_final hparsed ⟨order, hruns, .refl _ _⟩ hending
    obtain ⟨taken, hruns', hfolded⟩ := hpoints left last ⟨order, hruns, hreach⟩
    rw [hresults]
    exact ⟨taken, left, hruns', hfolded⟩

end Run

end Engine

namespace Sample

/-- Groups the items by nothing, which fails. -/
def groupItemsByNothing : Step where
  id := "group"
  name := none
  dependencies := []
  timeout := none
  config := .dataTransformation
    { transformation := "aggregate"
      conditions := []
      mappings := []
      groupBy := none
      source := some "items"
      replaceData := true }

def tidying : Definition where
  id := "tidying"
  name := none
  steps := [groupItemsByNothing, check "look" [], narrow]

def itemsSubmission : Submission :=
  { submission with payload := itemsRequest.payload }

/-- The items of the request. -/
def items : Datum :=
  .value (.list [.object [("open", .bool true)], .object [("open", .bool false)]])

theorem target_of_tidying : ∀ step ∈ tidying.steps, ∀ config, step.writeBack? = some config →
    config.target = "items" := by
  intro step hstep config hwrites
  have hsteps : step = groupItemsByNothing ∨ step = check "look" [] ∨ step = narrow := by
    simpa [tidying] using hstep
  rcases hsteps with rfl | rfl | rfl
  · obtain rfl := Option.some.inj hwrites
    rfl
  · cases hwrites
  · obtain rfl := Option.some.inj hwrites
    rfl

theorem tidying_folds :
    (engineFor tidying).LooksUpParsed ∧ itemsSubmission.accept = .ok itemsRequest ∧
      (engineFor tidying).Loads "checks" () tidying ∧
      (∀ step ∈ tidying.steps, ∀ config, step.writeBack? = some config →
        config.target = "items") ∧
      Entries.get? itemsRequest.initialData "items" = some items ∧
      (∀ step ∈ tidying.steps, (engineFor tidying).registry.deadlines.effective step = none) ∧
      ∀ record data,
        ((engineFor tidying).run "run" itemsSubmission (.start ()) ()).ending = .finished record data →
          ∃ taken rest, (engineFor tidying).RunsOver itemsRequest (.start ()) (taken ++ rest) ∧
            FoldedTo itemsRequest.initialData "items" items taken data record.results := by
  have hparsed : (engineFor tidying).LooksUpParsed := engineFor_looksUpParsed ⟨tidying.toValue, rfl⟩
  have haccept : itemsSubmission.accept = .ok itemsRequest := by rfl
  have hloads : (engineFor tidying).Loads itemsRequest.workflowId (Stage.start ()).world tidying :=
    ⟨rfl, rfl⟩
  have hfield : Entries.get? itemsRequest.initialData "items" = some items := by rfl
  have hnone : ∀ step ∈ tidying.steps,
      (engineFor tidying).registry.deadlines.effective step = none := by
    intro step hstep
    have hsteps : step = groupItemsByNothing ∨ step = check "look" [] ∨ step = narrow := by
      simpa [tidying] using hstep
    rcases hsteps with rfl | rfl | rfl <;> rfl
  have hunlimited : ∀ step ∈ tidying.steps, ∀ seconds,
      seconds ∉ binding? ((engineFor tidying).registry.deadlines.effective step) := by
    intro step hstep seconds hseconds
    rw [hnone step hstep] at hseconds
    cases hseconds
  refine ⟨hparsed, haccept, hloads, target_of_tidying, hfield, hnone, ?_⟩
  refine ((Engine.writeBacks_fold_iff_none_oversized
    (Registry.find?_standard collaborators _ .dataTransformation) hparsed hloads
    target_of_tidying hfield
    (fun step hstep _ seconds hseconds => absurd hseconds (hunlimited step hstep seconds)) haccept
    "run" ()).mpr ?_).2
  rintro step rest point ⟨order, hruns, hreach⟩ - seconds hseconds
  have hstep := (Engine.mem_of_runsOver hruns hloads).mp (hreach.suffix.subset List.mem_cons_self)
  exact absurd hseconds (hunlimited step hstep seconds)

/-- A deadline for every step that is beyond all times. -/
def boundless : Deadlines where
  enforced := true
  default := some (.int (Double.powerOfTen 400))

def narrowingOnce : Definition where
  id := "narrowing"
  name := none
  steps := [narrow]

def boundlessEngine : Engine Unit Unit :=
  { Engine.knowing narrowingOnce (.standard collaborators boundless) with byDependency := false }

/-- The step is not started, although its transformation would take the items. -/
theorem boundless_narrowing_not_folded :
    boundlessEngine.LooksUpParsed ∧ itemsSubmission.accept = .ok itemsRequest ∧
      boundlessEngine.Loads "checks" () narrowingOnce ∧
      (∀ step ∈ narrowingOnce.steps, ∀ config, step.writeBack? = some config →
        config.target = "items" ∧ ∃ output, config.apply items = .ok output) ∧
      Entries.get? itemsRequest.initialData "items" = some items ∧
      (∀ step ∈ narrowingOnce.steps,
        ∀ seconds ∈ binding? (boundlessEngine.registry.deadlines.effective step),
          seconds.isNonPositive = false) ∧
      (boundlessEngine.run "run" itemsSubmission (.start ()) ()).ending.record?.map (·.status)
        = some .completed ∧
      ¬ ∀ record data,
        (boundlessEngine.run "run" itemsSubmission (.start ()) ()).ending = .finished record data →
          ∃ taken rest, boundlessEngine.RunsOver itemsRequest (.start ()) (taken ++ rest) ∧
            FoldedTo itemsRequest.initialData "items" items taken data record.results := by
  have hparsed : boundlessEngine.LooksUpParsed :=
    Engine.looksUpParsed_knowing ⟨narrowingOnce.toValue, rfl⟩ (.standard collaborators boundless)
  have hsteps : ∀ step ∈ narrowingOnce.steps, step = narrow := fun step => List.mem_singleton.mp
  have hnarrow : ∃ config, narrow.writeBack? = some config ∧ config.target = "items" ∧
      ∃ output, config.apply items = .ok output := ⟨_, rfl, rfl, _, rfl⟩
  obtain ⟨config, hwrites, htarget, output, happly⟩ := hnarrow
  refine ⟨hparsed, by rfl, ⟨rfl, rfl⟩, ?_, by rfl, ?_, by decide +kernel, fun hfolds => ?_⟩
  · intro step hstep found hfound
    rw [hsteps step hstep, hwrites] at hfound
    obtain rfl := Option.some.inj hfound
    exact ⟨htarget, output, happly⟩
  · intro step hstep seconds hseconds
    rw [hsteps step hstep] at hseconds
    have heffective : binding? (boundlessEngine.registry.deadlines.effective narrow)
        = some (.int (Double.powerOfTen 400)) := by decide +kernel
    obtain rfl : Number.int (Double.powerOfTen 400) = seconds := by simpa [heffective] using hseconds
    decide +kernel
  · have hended : (boundlessEngine.run "run" itemsSubmission (.start ()) ()).ending.record?.map
        (fun record => record.results.map fun entry => (entry.1, entry.2.outcome.error?))
          = some [("narrow", some "int too large to convert to float")] := by
      decide +kernel
    have hruns : boundlessEngine.RunsOver itemsRequest (.start ()) [narrow] :=
      ⟨narrowingOnce, ⟨rfl, rfl⟩, rfl⟩
    cases hending : (boundlessEngine.run "run" itemsSubmission (.start ()) ()).ending with
    | finished record data =>
      rw [hending] at hended
      obtain ⟨⟨id, result⟩, hresults, hentry⟩ :=
        List.map_eq_singleton_iff.mp (Option.some.inj hended)
      obtain ⟨rfl, herror⟩ := Prod.mk.inj hentry
      obtain ⟨taken, rest, hruns', hfolded⟩ := hfolds record data hending
      have hlength : taken.length = 1 := by
        have hkeys := congrArg List.length hfolded.steps
        simpa [Entries.keys, hresults] using hkeys.symm
      have hsplit : taken ++ rest = [narrow] := hruns.unique hruns'
      obtain rfl : taken = [narrow] := by
        have htaken := congrArg (List.take 1) hsplit
        rwa [← hlength, List.take_left, hlength] at htaken
      obtain ⟨found, hfound, houtcome⟩ := hfolded.filed [] narrow [] config rfl hwrites
      rw [hresults] at hfound
      obtain rfl : result = found := by simpa [Entries.get?, narrow] using hfound
      have hsuccess : config.outcome (foldWriteBacks [] items) = .success output := by
        unfold TransformationConfig.outcome
        rw [show foldWriteBacks [] items = items from rfl, happly]
      rw [houtcome, hsuccess] at herror
      cases herror
    | refused | escaped | stalled =>
      rw [hending] at hended
      cases hended

end Sample

end Runbook
