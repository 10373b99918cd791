import Runbook.Proofs.Engine.Ending
import Runbook.Proofs.Executor.Agreement

/-!
# Warnings of dependencies

A step is warned of exactly when it lists steps that come after it, and of these: at every point of a run
the results are those of the steps before, failed ones among them. What has been warned of so far and what
there is still to warn of stays the same from point to point, so it can be read off the order of the steps.
-/

namespace Runbook

/-- The dependencies of a step on the others, as it lists them. -/
def Step.dependenciesAmong (step : Step) (others : List Step) : List String :=
  step.dependencies.filter fun id => id ∈ others.map (·.id)

def pendingTitle : String := "Step dependencies have not produced results yet"

/-- The warning of a step that lists others without results, if it does. -/
def pendingWarning (step : Step) (pending : List String) : List LogEntry :=
  if pending.isEmpty then []
  else [.event .warning pendingTitle [
    ("step_id", .string step.id), ("pending", .strings pending)]]

/-- The warnings that there are to expect of steps taken in this order. -/
def Schedule.pendingWarnings : List Step → List LogEntry
  | [] => []
  | step :: later => pendingWarning step (step.dependenciesAmong later) ++ pendingWarnings later

def LogEntry.isPendingWarning : LogEntry → Bool
  | .event _ title _ => title == pendingTitle
  | .line _ _ => false

namespace Stage

variable {σ : Type}

/-- The warnings of dependencies in the log. -/
def pendingWarnings (stage : Stage σ) : List LogEntry :=
  stage.log.filter LogEntry.isPendingWarning

theorem pendingWarnings_note (stage : Stage σ) (level : Level) {title : String}
    (fields : Value.Fields) (htitle : title ≠ pendingTitle) :
    (stage.note level title fields).pendingWarnings = stage.pendingWarnings := by
  simp [pendingWarnings, note, LogEntry.isPendingWarning, htitle]

end Stage

theorem Progress.pendingWarnings_afterRecording {σ τ : Type} (progress : Progress σ τ)
    (answer : Option LogEntry × τ) (h : ∀ entry ∈ answer.1, entry.isPendingWarning = false) :
    (progress.afterRecording answer).stage.pendingWarnings = progress.stage.pendingWarnings := by
  rcases answer with ⟨_ | entry, sink⟩
  · rfl
  · have hentry : entry.isPendingWarning = false := h entry rfl
    simp [Progress.afterRecording, Stage.pendingWarnings, hentry]

namespace Recorder

variable {τ : Type} (recorder : Recorder τ)

theorem not_isPendingWarning_record (entry : RunEntry) (state : τ) :
    ∀ logged ∈ (recorder.record entry state).1, logged.isPendingWarning = false := by
  unfold record
  cases recorder.sink with
  | none => simp
  | some sink =>
    rcases hreply : sink.append entry state with ⟨_ | failure, next⟩ <;>
      simp [hreply, LogEntry.isPendingWarning, pendingTitle]

theorem not_isPendingWarning_recordStep (entry : StepEntry) (state : τ) :
    ∀ logged ∈ (recorder.recordStep entry state).1, logged.isPendingWarning = false := by
  unfold recordStep
  cases recorder.stepSink? with
  | none => simp
  | some sink =>
    rcases hreply : sink.appendStep entry state with ⟨_ | failure, next⟩ <;>
      simp [hreply, LogEntry.isPendingWarning, pendingTitle]

end Recorder

/-! ### Orders -/

namespace Schedule

theorem Respects.dependenciesAmong_eq_nil {done : List String} {step : Step}
    {later : List Step} (h : Respects done (step :: later))
    (hids : (done ++ later.map (·.id)).Nodup) : step.dependenciesAmong later = [] := by
  rw [Step.dependenciesAmong, List.filter_eq_nil_iff]
  intro dependency hdependency
  have hdone : dependency ∈ done := h.1 dependency hdependency
  have hapart : dependency ∉ later.map (·.id) := fun hlater =>
    (List.nodup_append.mp hids).2.2 dependency hdone dependency hlater rfl
  simpa using hapart

theorem Respects.pendingWarnings_eq_nil {done : List String} {steps : List Step}
    (h : Respects done steps) (hids : (done ++ steps.map (·.id)).Nodup) :
    pendingWarnings steps = [] := by
  induction steps generalizing done with
  | nil => rfl
  | cons step later ih =>
    have hmoved : (step.id :: done ++ later.map (·.id)).Nodup := List.perm_middle.nodup_iff.mp hids
    have hlater : (done ++ later.map (·.id)).Nodup := (List.nodup_cons.mp hmoved).2
    rw [pendingWarnings, h.dependenciesAmong_eq_nil hlater, ih h.2 hmoved]
    rfl

theorem pendingWarnings_suffix {rest steps : List Step} (h : rest <:+ steps) :
    pendingWarnings rest <:+ pendingWarnings steps := by
  obtain ⟨front, rfl⟩ := h
  induction front with
  | nil => exact List.suffix_refl _
  | cons step front ih => exact ih.trans (List.suffix_append _ _)

end Schedule

/-! ### Executors -/

namespace Executor

variable {σ : Type}

/-- Whatever the executor logs, it is no warning of dependencies. -/
def Unwarning (executor : Executor σ) : Prop :=
  ∀ clock deadlines step data stage,
    (executor.run clock deadlines step data stage).2.pendingWarnings = stage.pendingWarnings

theorem unwarning_of_agrees {executor : Executor σ}
    (h : ∀ warnings, executor.Agrees fun s t => s = t ∧ s.pendingWarnings = warnings) :
    executor.Unwarning := by
  intro clock deadlines step data stage
  have hcourse : AdmitsCourse (fun s t : Stage σ =>
      s = t ∧ s.pendingWarnings = stage.pendingWarnings) clock clock := by
    rintro before _ s _ level title fields htitle ⟨rfl, -⟩ ⟨rfl, hs⟩
    have htitle' : title ≠ pendingTitle := by
      rintro rfl
      exact absurd htitle (by decide)
    exact ⟨rfl, by rw [Stage.pendingWarnings_note s level _ htitle', hs]⟩
  exact ((h stage.pendingWarnings).run hcourse step deadlines data ⟨rfl, rfl⟩).2.2

theorem unwarning_standard (collaborators : Collaborators σ) (type : StepType) :
    (standard collaborators type).Unwarning := by
  refine unwarning_of_agrees fun warnings => agrees_standard ?_ type
  constructor
  all_goals
    rintro service - argument s _ ⟨rfl, hs⟩
    exact ⟨rfl, rfl, hs⟩

end Executor

namespace Engine

variable {σ τ : Type} {engine : Engine σ τ}

/-! ### One step -/

theorem pending_of_accounts {record : Record} {taken later : List Step} {step : Step}
    (haccounts : record.Accounts taken (step :: later))
    (hids : ((taken ++ step :: later).map (·.id)).Nodup)
    (hdependencies : ∀ dependency ∈ step.dependencies,
      dependency ∈ (taken ++ step :: later).map (·.id) ∧ dependency ≠ step.id) :
    pending record step = step.dependenciesAmong later := by
  unfold pending Step.dependenciesAmong
  refine List.filter_congr fun dependency hdependency => ?_
  obtain ⟨hdeclared, hother⟩ := hdependencies dependency hdependency
  rw [List.map_append, List.map_cons] at hdeclared hids
  have hresult : Entries.has record.results dependency = true ↔ dependency ∈ taken.map (·.id) := by
    rw [Entries.has_iff, haccounts.results]
  -- Ids are distinct, so a dependency comes before the step or after it, and never both.
  by_cases htaken : dependency ∈ taken.map (·.id)
  · have hlater : dependency ∉ later.map (·.id) := fun hlater =>
      (List.nodup_append.mp hids).2.2 dependency htaken dependency (List.mem_cons_of_mem _ hlater) rfl
    rw [hresult.mpr htaken, decide_eq_false hlater]
    rfl
  · have hlater : dependency ∈ later.map (·.id) := by
      rcases List.mem_append.mp hdeclared with hbefore | hrest
      · exact absurd hbefore htaken
      · exact (List.mem_cons.mp hrest).resolve_left hother
    rw [Bool.eq_false_iff.mpr (mt hresult.mp htaken), decide_eq_true hlater]
    rfl

theorem pendingWarnings_warnPending (stage : Stage σ) (record : Record) (step : Step) :
    (warnPending stage record step).pendingWarnings
      = stage.pendingWarnings ++ pendingWarning step (pending record step) := by
  unfold warnPending pendingWarning
  dsimp only
  split
  · rw [List.append_nil]
  · simp [Stage.pendingWarnings, Stage.note, LogEntry.isPendingWarning, pendingTitle]

section Step

variable (hunwarning : engine.registry.All Executor.Unwarning) {step : Step}
include hunwarning

theorem pendingWarnings_invoke {executor : Executor σ}
    (hfound : engine.registry.find? step.type = some executor) (record : Record) (data : Data)
    (stage : Stage σ) :
    (engine.invoke record data step stage).2.pendingWarnings
      = stage.pendingWarnings ++ pendingWarning step (pending record step) := by
  have hexecutor : executor.Unwarning := hunwarning.of_find? hfound
  rw [invoke_eq_judged hfound, stage_judged, hexecutor, pendingWarnings_warnPending]

theorem pendingWarnings_invoke_of_none {record : Record} (hnone : pending record step = [])
    (data : Data) (stage : Stage σ) :
    (engine.invoke record data step stage).2.pendingWarnings = stage.pendingWarnings := by
  cases hfound : engine.registry.find? step.type with
  | none => rw [invoke_of_missing hfound]
  | some executor =>
    rw [pendingWarnings_invoke hunwarning hfound, hnone]
    exact List.append_nil _

theorem pendingWarnings_takeStep {progress next : Progress σ τ}
    (htaken : engine.takeStep step progress = .continued next) :
    next.stage.pendingWarnings
      = progress.stage.pendingWarnings ++ pendingWarning step (pending progress.record step) := by
  obtain ⟨result, after, record, hinvoke, -, rfl⟩ := takeStep_eq_continued htaken
  rw [recordStep, Progress.pendingWarnings_afterRecording _ _
    (engine.recorder.not_isPendingWarning_recordStep _ _)]
  cases hfound : engine.registry.find? step.type with
  | none =>
    rw [invoke_of_missing hfound] at hinvoke
    cases hinvoke
  | some executor =>
    rw [← pendingWarnings_invoke hunwarning hfound progress.record progress.data progress.stage,
      hinvoke]

end Step

/-! ### Whole runs -/

section Run

variable {id : String} {request : RunRequest} {stage : Stage σ} {sink : τ} {order : List Step}

theorem RunsOver.dependency (hparsed : engine.LooksUpParsed)
    (h : engine.RunsOver request stage order) {step : Step} (hstep : step ∈ order)
    {dependency : String} (hdependency : dependency ∈ step.dependencies) :
    dependency ∈ order.map (·.id) ∧ dependency ≠ step.id := by
  obtain ⟨definition, hloads, horder⟩ := h
  have hids := (hparsed _ _ _ hloads.1).nodup_ids
  have hperm : order.Perm definition.steps := Schedule.order_perm horder
  obtain ⟨hdeclared, hother⟩ :=
    Schedule.dependency_of_check hids hloads.2 (hperm.mem_iff.mp hstep) hdependency
  exact ⟨(hperm.map (·.id)).mem_iff.mpr hdeclared, hother⟩

theorem ComesTo.pending_eq (hparsed : engine.LooksUpParsed) {step : Step} {later : List Step}
    {point : Progress σ τ} (h : engine.ComesTo id request stage sink (step :: later) point) :
    ∃ earlier, engine.RunsOver request stage (earlier ++ step :: later) ∧
      pending point.record step = step.dependenciesAmong later := by
  obtain ⟨order, hruns, hreach⟩ := h
  have hids := hruns.nodup_ids hparsed
  obtain ⟨taken, rfl, haccounts⟩ := hreach.accounts hids
  refine ⟨taken, hruns, pending_of_accounts haccounts hids fun dependency hdependency => ?_⟩
  exact hruns.dependency hparsed (List.mem_append_right taken List.mem_cons_self) hdependency

theorem ComesTo.pending_eq_nil (hparsed : engine.LooksUpParsed)
    (hordered : engine.byDependency = true) {step : Step} {later : List Step}
    {point : Progress σ τ} (h : engine.ComesTo id request stage sink (step :: later) point) :
    pending point.record step = [] := by
  obtain ⟨earlier, hruns, hpending⟩ := h.pending_eq hparsed
  have hids := hruns.nodup_ids hparsed
  obtain ⟨-, hrest⟩ := Schedule.respects_append.mp (hruns.respects hordered)
  rw [hpending]
  refine hrest.dependenciesAmong_eq_nil ?_
  -- What is done then are the ids of the steps before.
  rw [List.map_append, List.map_cons] at hids
  have hapart : (earlier.map (·.id) ++ later.map (·.id)).Nodup :=
    (List.nodup_cons.mp (List.perm_middle.nodup_iff.mp hids)).2
  rw [List.append_nil]
  exact ((List.reverse_perm _).append_right _).nodup_iff.mpr hapart

variable (hunwarning : engine.registry.All Executor.Unwarning)
include hunwarning

/-- What has been warned of and what there is to warn of yet are together always the same. -/
theorem Reaches.pendingWarnings (hparsed : engine.LooksUpParsed)
    (hruns : engine.RunsOver request stage order) {rest : List Step} {point : Progress σ τ}
    (h : engine.Reaches order (engine.opening id request stage sink order) rest point) :
    point.stage.pendingWarnings ++ Schedule.pendingWarnings rest
      = stage.pendingWarnings ++ Schedule.pendingWarnings order := by
  have hopening : (engine.opening id request stage sink order).stage.pendingWarnings
      = stage.pendingWarnings :=
    stage.pendingWarnings_note .info [("trigger", .string request.trigger.name)] (by decide)
  refine (h.keeps (fun rest point =>
    engine.Reaches order (engine.opening id request stage sink order) rest point ∧
      point.stage.pendingWarnings ++ Schedule.pendingWarnings rest
        = stage.pendingWarnings ++ Schedule.pendingWarnings order) ?_ ⟨.refl _ _, by rw [hopening]⟩).2
  rintro step rest progress next ⟨hreach, hwarned⟩ htaken
  obtain ⟨earlier, -, hpending⟩ := ComesTo.pending_eq hparsed ⟨order, hruns, hreach⟩
  refine ⟨hreach.trans (.step htaken (.refl _ _)), ?_⟩
  rw [pendingWarnings_takeStep hunwarning htaken, hpending, List.append_assoc]
  exact hwarned

omit hunwarning in
theorem pendingWarnings_finish (status : Status) (error : Option String)
    (errorStatus : Option Int) (progress : Progress σ τ) :
    (engine.finish status error errorStatus progress).stage.pendingWarnings
      = progress.stage.pendingWarnings := by
  rw [finish, Progress.pendingWarnings_afterRecording _ _
    (engine.recorder.not_isPendingWarning_record _ _)]
  exact Stage.pendingWarnings_note _ _ _ (by decide)

theorem Stops.pendingWarnings {left : List Step} {last : Progress σ τ} {course : Course σ τ}
    (h : engine.Stops left last course)
    (hnone : ∀ step rest, left = step :: rest → pending last.record step = []) :
    (engine.conclude course).stage.pendingWarnings = last.stage.pendingWarnings := by
  cases h with
  | done =>
    simp only [conclude, finished, pendingWarnings_finish]
    split
    · rfl
    · exact Stage.pendingWarnings_note _ _ _ (by decide)
  | @faulted step rest _ fault after hinvoke =>
    have hafter := pendingWarnings_invoke_of_none hunwarning (hnone step rest rfl) last.data last.stage
    rw [hinvoke] at hafter
    simp only [conclude, finished, pendingWarnings_finish]
    exact (Stage.pendingWarnings_note _ _ _ (by decide)).trans hafter
  | @stalled step rest _ after hinvoke =>
    have hafter := pendingWarnings_invoke_of_none hunwarning (hnone step rest rfl) last.data last.stage
    rw [hinvoke] at hafter
    exact hafter

theorem pendingWarnings_execute (hparsed : engine.LooksUpParsed)
    (hordered : engine.byDependency = true) (id : String) (request : RunRequest) (stage : Stage σ)
    (sink : τ) :
    (engine.execute id request stage sink).stage.pendingWarnings = stage.pendingWarnings := by
  have hgreeted : (greeted request stage).pendingWarnings = stage.pendingWarnings :=
    stage.pendingWarnings_note _ _ (by decide)
  rcases engine.load_cases request.workflowId (greeted request stage) with
    ⟨definition, hloads, -⟩ | ⟨failure, -, hload⟩ | ⟨-, hload⟩
  · obtain ⟨order, hruns⟩ : ∃ order, engine.RunsOver request stage order :=
      exists_runsOver hparsed hloads
    obtain ⟨left, last, course, hreach, hstops, htaken⟩ :=
      Reaches.exists_stop (hruns.nodup_ids hparsed)
        (.refl order (engine.opening id request stage sink order))
    have hnone : ∀ step rest, left = step :: rest → pending last.record step = [] := by
      rintro step rest rfl
      exact ComesTo.pending_eq_nil hparsed hordered ⟨order, hruns, hreach⟩
    have hdue : Schedule.pendingWarnings order = [] :=
      (hruns.respects hordered).pendingWarnings_eq_nil (hruns.nodup_ids hparsed)
    have hleft : Schedule.pendingWarnings left = [] :=
      List.suffix_nil.mp (hdue ▸ Schedule.pendingWarnings_suffix hreach.suffix)
    have hwarned := hreach.pendingWarnings hunwarning hparsed hruns
    rw [hdue, hleft, List.append_nil, List.append_nil] at hwarned
    rw [execute_of_runsOver hruns, htaken, hstops.pendingWarnings hunwarning hnone, hwarned]
  · rw [execute_of_load_error hload, finished, pendingWarnings_finish]
    have hentry : (LoadFailure.ofFailure failure).logEntry.isPendingWarning = false := by
      cases LoadFailure.ofFailure failure <;>
        simp [LoadFailure.logEntry, LogEntry.isPendingWarning, pendingTitle]
    have hlog : (engine.lookedUp request.workflowId (greeted request stage)).log
        = (greeted request stage).log := rfl
    have hadded : [(LoadFailure.ofFailure failure).logEntry].filter LogEntry.isPendingWarning = [] := by
      simp [hentry]
    rw [Stage.pendingWarnings, List.filter_append, hlog, hadded, List.append_nil]
    exact hgreeted
  · simp only [greeted] at hload
    simp only [execute, hload]
    exact hgreeted

end Run

/-- **Warnings of dependencies are exact.** Whenever a run comes to a step, the dependencies that are
pending are those on the steps that come later in its order, whatever the steps before came to; by
dependency there are none. As long as no executor writes such warnings itself, those in the log are at
every point the ones for the steps before, and a run by dependency adds none at all. -/
theorem pending_warnings_exact (hparsed : engine.LooksUpParsed) (id : String) (stage : Stage σ)
    (sink : τ) :
    (∀ request step later point, engine.ComesTo id request stage sink (step :: later) point →
        (∃ earlier, engine.RunsOver request stage (earlier ++ step :: later) ∧
          pending point.record step = step.dependenciesAmong later) ∧
        (engine.byDependency = true → pending point.record step = [])) ∧
      (engine.registry.All Executor.Unwarning →
        (∀ request order rest point, engine.RunsOver request stage order →
          engine.Reaches order (engine.opening id request stage sink order) rest point →
            point.stage.pendingWarnings ++ Schedule.pendingWarnings rest
              = stage.pendingWarnings ++ Schedule.pendingWarnings order) ∧
        (engine.byDependency = true → ∀ submission,
          (engine.run id submission stage sink).stage.pendingWarnings = stage.pendingWarnings)) := by
  refine ⟨fun request step later point hpoint => ⟨hpoint.pending_eq hparsed, fun hordered =>
    hpoint.pending_eq_nil hparsed hordered⟩, fun hunwarning => ⟨?_, ?_⟩⟩
  · intro request order rest point hruns hreach
    exact hreach.pendingWarnings hunwarning hparsed hruns
  · intro hordered submission
    unfold run
    cases submission.accept with
    | error error => rfl
    | ok request => exact pendingWarnings_execute hunwarning hparsed hordered id request stage sink

end Engine

namespace Sample

/-- The sample warns of its first step when it is run as it is declared. -/
theorem declared_checks_warn_of_second :
    (engineFor definition).LooksUpParsed ∧
      (engineFor definition).registry.All Executor.Unwarning ∧
      Schedule.pendingWarnings definition.steps = [.event .warning pendingTitle [
        ("step_id", .string "second"), ("pending", .strings ["first"])]] ∧
      ∀ point, (engineFor definition).Reaches definition.steps
          ((engineFor definition).opening "run" request (.start ()) () definition.steps) [] point →
        point.stage.pendingWarnings = Schedule.pendingWarnings definition.steps := by
  have hparsed : (engineFor definition).LooksUpParsed := engineFor_looksUpParsed definition_parsed
  have hunwarning : (engineFor definition).registry.All Executor.Unwarning :=
    Registry.all_standard (Executor.unwarning_standard collaborators) _
  refine ⟨hparsed, hunwarning, rfl, fun point hreach => ?_⟩
  obtain ⟨-, hlogged⟩ := Engine.pending_warnings_exact hparsed "run" (.start ()) ()
  have hwarned := (hlogged hunwarning).1 request definition.steps [] point
    ⟨definition, ⟨rfl, rfl⟩, rfl⟩ hreach
  simpa [Stage.pendingWarnings, Stage.start, Schedule.pendingWarnings] using hwarned

end Sample

end Runbook
