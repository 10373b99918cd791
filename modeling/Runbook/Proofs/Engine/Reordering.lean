import Mathlib.Tactic.Choose
import Runbook.Proofs.Engine.Isolation
import Runbook.Proofs.Engine.Truncation

/-!
# Runs in another order

When nothing is written back to the runtime data and services answer by what they are asked, each step
comes to one result and makes its own calls, whenever it is taken. A run by dependency and one in the
declared order then differ in the order of results and calls alone. The one kind of deadline that ends a
run with the standard executors ends both.
-/

namespace Runbook

variable {σ τ : Type}

/-- The step leaves runtime data as they are. -/
def Step.KeepsData (step : Step) : Prop :=
  ∀ config, step.config = .dataTransformation config → config.replaceData = false

/-! ### Services without memory -/

/-- What the service answers depends on what it is asked and on nothing else. -/
def Service.Functional {α β : Type} (service : Service σ α β) : Prop :=
  ∀ a world other, (service a world).1 = (service a other).1

structure Collaborators.Functional (collaborators : Collaborators σ) : Prop where
  template : ∀ service ∈ collaborators.template, Service.Functional service
  completion : ∀ service ∈ collaborators.completion, Service.Functional service
  notifier : ∀ service ∈ collaborators.notifier, Service.Functional service
  http : ∀ service ∈ collaborators.http, Service.Functional service

/-- Each step type has its standard executor, with services that have no memory. -/
def Registry.Functional (registry : Registry σ) : Prop :=
  ∀ type, ∃ collaborators : Collaborators σ, collaborators.Functional ∧
    registry.find? type = some (.standard collaborators type)

theorem Registry.Functional.isStandard {registry : Registry σ} (h : registry.Functional) :
    registry.IsStandard := by
  intro type
  obtain ⟨collaborators, -, hfound⟩ := h type
  exact ⟨collaborators, hfound⟩

theorem Registry.functional_standard {collaborators : Collaborators σ} (h : collaborators.Functional)
    (deadlines : Deadlines) : (standard collaborators deadlines).Functional :=
  fun type => ⟨collaborators, h, find?_standard collaborators deadlines type⟩

/-- The same calls have been made on both stages since these were. -/
def SameCallsSince (before other : List Call) (s t : Stage σ) : Prop :=
  ∃ made, s.calls = before ++ made ∧ t.calls = other ++ made

namespace Interaction

variable {α β : Type} {service : Service σ α β} {before other : List Call}

theorem agree_consult_of_functional (h : Service.Functional service) (a : α) :
    Agree (SameCallsSince before other) (consult service a) (consult service a) := by
  rintro s t ⟨made, hs, ht⟩
  exact ⟨h a s.world t.world, made, hs, ht⟩

theorem agree_perform_of_functional (h : Service.Functional service) (call : Call) (a : α) :
    Agree (SameCallsSince before other) (perform call service a) (perform call service a) := by
  rintro s t ⟨made, hs, ht⟩
  refine ⟨h a s.world t.world, made ++ [call], ?_, ?_⟩
  · exact (congrArg (· ++ [call]) hs).trans (List.append_assoc _ _ _)
  · exact (congrArg (· ++ [call]) ht).trans (List.append_assoc _ _ _)

end Interaction

/-- A standard executor comes to the same on any two stages, and makes the same calls. -/
theorem Executor.run_standard_of_functional {collaborators : Collaborators σ}
    (h : collaborators.Functional) (type : StepType) (clock : σ → Instant) (deadlines : Deadlines)
    (step : Step) (data : Data) (s t : Stage σ) :
    ((standard collaborators type).run clock deadlines step data s).1.map Returned.plain
        = ((standard collaborators type).run clock deadlines step data t).1.map Returned.plain ∧
      SameCallsSince s.calls t.calls
        ((standard collaborators type).run clock deadlines step data s).2
        ((standard collaborators type).run clock deadlines step data t).2 := by
  have hagree : collaborators.Agree (SameCallsSince s.calls t.calls) := {
    template := fun service hservice =>
      Interaction.agree_consult_of_functional (h.template service hservice)
    completion := fun service hservice call =>
      Interaction.agree_perform_of_functional (h.completion service hservice) _ call
    notifier := fun service hservice message =>
      Interaction.agree_perform_of_functional (h.notifier service hservice) _ message
    http := fun service hservice call =>
      Interaction.agree_perform_of_functional (h.http service hservice) _ call }
  have hcourse : AdmitsCourse (SameCallsSince (σ := σ) s.calls t.calls) clock clock :=
    fun _ _ _ _ _ _ _ _ _ hsince => hsince
  have hstart : SameCallsSince s.calls t.calls s t :=
    ⟨[], (List.append_nil _).symm, (List.append_nil _).symm⟩
  exact (agrees_standard hagree type).run hcourse step deadlines data hstart

namespace Engine

variable {engine : Engine σ τ}

/-! ### What each step comes to -/

/-- Whenever a step lets a run go on with these data, it has this result, times aside, and has made
these calls. -/
def Determines (engine : Engine σ τ) (data : Data) (step : Step) (result : StepResult)
    (made : List Call) : Prop :=
  ∀ record stage found after,
    engine.invoke record data step stage = (.answered (.ok found), after) →
      found.plain = result ∧ after.calls = stage.calls ++ made

theorem exists_determined (h : engine.registry.Functional) (data : Data) (step : Step) :
    ∃ result made, engine.Determines data step result made := by
  obtain ⟨collaborators, hfunctional, hfound⟩ := h step.type
  by_cases hanswers : ∃ record stage found after,
      engine.invoke record data step stage = (.answered (.ok found), after)
  · -- One answer tells of all the others.
    obtain ⟨record, stage, found, after, hinvoke⟩ := hanswers
    have hrun := run_of_invoke_ok hfound hinvoke
    have hsince := fun t => Executor.run_standard_of_functional hfunctional step.type engine.clock
      engine.registry.deadlines step data (warnPending stage record step) t
    rw [hrun] at hsince
    obtain ⟨-, made, hmade, -⟩ := hsince (warnPending stage record step)
    refine ⟨found.plain, made, fun other stage' found' after' hinvoke' => ?_⟩
    have hrun' := run_of_invoke_ok hfound hinvoke'
    obtain ⟨hreply, calls, hcalls, hcalls'⟩ := hsince (warnPending stage' other step)
    rw [hrun'] at hreply hcalls'
    obtain rfl : made = calls := List.append_cancel_left (hmade.symm.trans hcalls)
    refine ⟨?_, by rw [hcalls', calls_warnPending]⟩
    exact (Returned.result.inj (Reply.answered.inj hreply)).symm
  · refine ⟨.succeeded .null, [], fun record stage found after hinvoke => ?_⟩
    exact absurd ⟨record, stage, found, after, hinvoke⟩ hanswers

/-! ### Runs in a given order -/

/-- The engine with steps taken by dependency, or as they are declared. -/
def ordering (engine : Engine σ τ) (byDependency : Bool) : Engine σ τ :=
  { engine with byDependency }

theorem applyOutput_of_keepsData {step : Step} (h : step.KeepsData) (result : StepResult)
    (data : Data) : applyOutput step result data = data := by
  unfold applyOutput
  split
  · next config d hconfig houtcome => rw [h config hconfig, if_neg Bool.false_ne_true]
  · rfl

theorem calls_recordStep (engine : Engine σ τ) (step : Step) (result : StepResult)
    (progress : Progress σ τ) :
    (engine.recordStep step result progress).stage.calls = progress.stage.calls :=
  congrArg (fun plain : Progress σ Unit => plain.stage.calls)
    (engine.plain_recordStep step result progress)

section Run

variable {id : String} {request : RunRequest} {stage : Stage σ} {sink : τ} {order rest : List Step}
  {point : Progress σ τ} {result : Step → StepResult} {made : Step → List Call}
  (hdetermined : ∀ step, engine.Determines request.initialData step (result step) (made step))
  (hkeeps : ∀ step ∈ order, step.KeepsData)

include hdetermined hkeeps in
/-- At every point of a run there are the results of the steps taken, and their calls. -/
theorem Reaches.determined
    (h : engine.Reaches order (engine.opening id request stage sink order) rest point) :
    ∃ taken, taken ++ rest = order ∧ point.data = request.initialData ∧
      Entries.mapValues StepResult.plain point.record.results
        = taken.map (fun step => (step.id, result step)) ∧
      point.stage.calls = stage.calls ++ taken.flatMap made := by
  refine h.keeps (fun rest point =>
    ∃ taken, taken ++ rest = order ∧ point.data = request.initialData ∧
      Entries.mapValues StepResult.plain point.record.results
        = taken.map (fun step => (step.id, result step)) ∧
      point.stage.calls = stage.calls ++ taken.flatMap made) ?_
    ⟨[], rfl, rfl, rfl, (List.append_nil _).symm⟩
  rintro step rest point next ⟨taken, rfl, hdata, hresults, hcalls⟩ htaken
  obtain ⟨found, after, record, hinvoke, hfiled, rfl⟩ := takeStep_eq_continued htaken
  have hstep : step.KeepsData := hkeeps step (List.mem_append_right taken List.mem_cons_self)
  rw [hdata] at hinvoke
  obtain ⟨hfound, hmade⟩ := hdetermined step _ _ _ _ hinvoke
  refine ⟨taken ++ [step], by simp, ?_, ?_, ?_⟩
  · rw [data_recordStep, applyOutput_of_keepsData hstep, hdata]
  · rw [record_recordStep, (Record.eq_of_addResult hfiled).2]
    simp only [Entries.mapValues, List.map_append] at hresults ⊢
    rw [hresults]
    simp [hfound]
  · rw [calls_recordStep, hmade, hcalls, List.append_assoc, List.flatMap_append]
    simp

include hdetermined hkeeps in
/-- A run through all steps has their results and their calls, in the order in which it takes them. -/
theorem exists_complete_of_not_unspeakable (hstandard : engine.registry.IsStandard)
    (hparsed : engine.LooksUpParsed) (hruns : engine.RunsOver request stage order)
    (hspeakable : ∀ step ∈ order,
      ¬ UnspeakableDeadline (engine.registry.deadlines.effective step))
    (hends : ¬ engine.HangsOpenly id request stage sink) :
    ∃ record, (engine.execute id request stage sink).ending = .finished record request.initialData ∧
      record.Complete order ∧
      Entries.mapValues StepResult.plain record.results
        = order.map (fun step => (step.id, result step)) ∧
      (engine.execute id request stage sink).stage.calls = stage.calls ++ order.flatMap made := by
  obtain ⟨last, hreach, hexecute⟩ :=
    exists_last_of_not_unspeakable hstandard hparsed hruns hspeakable hends
  obtain ⟨taken, hsplit, hdata, hresults, hcalls⟩ := hreach.determined hdetermined hkeeps
  obtain ⟨accounted, hsplit', haccounts⟩ := hreach.accounts (hruns.nodup_ids hparsed)
  rw [List.append_nil] at hsplit hsplit'
  subst hsplit
  subst hsplit'
  have hunlogged := congrArg Stage.calls (engine.unlogged_conclude_continued last)
  rw [hexecute, ending_conclude_continued, hdata]
  exact ⟨_, rfl, haccounts.complete _, hresults, hunlogged.trans hcalls⟩

end Run

/-! ### Two runs -/

/-- Two runs that complete with the same data and, times aside, the same results, after the same calls in
some order. -/
structure Alike (steps order : List Step) (stage other : Stage σ) (run twin : Run σ τ) : Prop where
  endings : ∃ record found data,
    run.ending = .finished record data ∧ record.Complete steps ∧
    twin.ending = .finished found data ∧ found.Complete order ∧
    ∀ id, (Entries.get? found.results id).map StepResult.plain
      = (Entries.get? record.results id).map StepResult.plain
  calls : ∃ made moved, run.stage.calls = stage.calls ++ made ∧
    twin.stage.calls = other.calls ++ moved ∧ moved.Perm made

/-- **The order of steps does not matter without write-backs, but for one kind of deadline.** With the
standard executors and services without memory, let no step replace runtime data, and let the run in the
declared order and the one by dependency not hang with nothing to end that. Both complete with the same
results but for times, with the same data and after the same calls, exactly when no step has a deadline
that has passed already and is too large to be told. -/
theorem alike_by_dependency_iff_not_unspeakable (hfunctional : engine.registry.Functional)
    (hparsed : engine.LooksUpParsed) {submission : Submission} {request : RunRequest}
    (haccept : submission.accept = .ok request) {definition : Definition} {stage other : Stage σ}
    (hloads : engine.Loads request.workflowId stage.world definition)
    (hloads' : engine.Loads request.workflowId other.world definition)
    (hkeeps : ∀ step ∈ definition.steps, step.KeepsData) {id twin : String} {sink state : τ}
    (hends : ¬ (engine.ordering false).HangsOpenly id request stage sink)
    (hends' : ¬ (engine.ordering true).HangsOpenly twin request other state) :
    (∃ order, Schedule.order definition.steps true = .ok order ∧
        Alike definition.steps order stage other
          ((engine.ordering false).run id submission stage sink)
          ((engine.ordering true).run twin submission other state)) ↔
      ∀ step ∈ definition.steps,
        ¬ UnspeakableDeadline (engine.registry.deadlines.effective step) := by
  -- The order of steps has no part in what an engine looks up or has registered.
  have hstandard : ∀ byDependency, (engine.ordering byDependency).registry.IsStandard :=
    fun _ => hfunctional.isStandard
  have hparsed' : ∀ byDependency, (engine.ordering byDependency).LooksUpParsed := fun _ => hparsed
  rw [run_of_accept haccept, run_of_accept haccept]
  constructor
  · rintro ⟨order, -, ⟨record, found, data, hending, hcomplete, -⟩, -⟩
    exact not_unspeakable_of_completed (hstandard false) (hparsed' false) hloads hends hending
      hcomplete.status_ne_failed
  · intro hspeakable
    choose result made hdetermined using
      fun step => exists_determined hfunctional request.initialData step
    have hdetermined' : ∀ byDependency step, (engine.ordering byDependency).Determines
        request.initialData step (result step) (made step) := fun _ => hdetermined
    have hids : (definition.steps.map (·.id)).Nodup := (hparsed _ _ _ hloads.1).nodup_ids
    obtain ⟨order, horder⟩ := Schedule.exists_order hids hloads.2 true
    have hperm : order.Perm definition.steps := Schedule.order_perm horder
    have hruns : (engine.ordering false).RunsOver request stage definition.steps :=
      ⟨definition, hloads, rfl⟩
    have hruns' : (engine.ordering true).RunsOver request other order :=
      ⟨definition, hloads', horder⟩
    obtain ⟨record, hending, hcomplete, hresults, hcalls⟩ :=
      exists_complete_of_not_unspeakable (hdetermined' false) hkeeps (hstandard false)
        (hparsed' false) hruns hspeakable hends
    obtain ⟨found, hending', hcomplete', hresults', hcalls'⟩ :=
      exists_complete_of_not_unspeakable (hdetermined' true)
        (fun step hstep => hkeeps step (hperm.mem_iff.mp hstep)) (hstandard true) (hparsed' true)
        hruns' (fun step hstep => hspeakable step (hperm.mem_iff.mp hstep)) hends'
    refine ⟨order, horder, ?_, ?_⟩
    · refine ⟨record, found, _, hending, hcomplete, hending', hcomplete', fun id => ?_⟩
      have hkeys : (Entries.keys (definition.steps.map fun step => (step.id, result step))).Nodup := by
        simpa [Entries.keys, Function.comp_def] using hids
      rw [← Entries.get?_mapValues, ← Entries.get?_mapValues, hresults, hresults']
      exact Entries.get?_of_perm (hperm.symm.map _) hkeys id
    · exact ⟨_, _, hcalls, hcalls', hperm.flatMap_right made⟩

end Engine

namespace Sample

def fetch : Step where
  id := "fetch"
  name := none
  dependencies := []
  timeout := none
  config := .apiCall { url := "/status", method := "GET", headers := [], bodyTemplate := none }

/-- Tells of what is fetched. -/
def tell : Step where
  id := "tell"
  name := none
  dependencies := ["fetch"]
  timeout := none
  config := .notification { channel := "email", template := "note", recipients := .one "ada" }

/-- Two steps that call services, declared against their order. -/
def tidings : Definition where
  id := "tidings"
  name := none
  steps := [tell, fetch]

/-- Services without memory: what is fetched is missing, and notifications go out. -/
def stateless : Collaborators Unit where
  template := some fun _ => pure (some { id := "note", subject := "Status", content := "As ever" })
  completion := none
  notifier := some fun message => pure {
    channel := message.channel
    recipients := message.recipients
    delivery := .delivered "sent" { micros := 0 } }
  http := some fun _ => pure { status := 404, body := .null, headers := [] }

theorem stateless_functional : stateless.Functional := by
  constructor <;> exact fun _ _ _ _ _ => rfl

theorem stateless_responsive : stateless.Responsive := by
  constructor
  · rintro service ⟨⟩ id
    exact Dialogue.returns_pure _
  · rintro service ⟨⟩
  · rintro service ⟨⟩ message
    exact Dialogue.returns_pure _
  · rintro service ⟨⟩ call
    exact Dialogue.returns_pure _

def tidingsEngine : Engine Unit Unit :=
  .knowing tidings (.standard stateless { enforced := true, default := none })

theorem tidings_parsed : tidings.Parsed := ⟨tidings.toValue, rfl⟩

theorem tidings_alike_by_dependency :
    tidingsEngine.registry.Functional ∧ tidingsEngine.LooksUpParsed ∧
      submission.accept = .ok request ∧ tidingsEngine.Loads "checks" () tidings ∧
      (∀ step ∈ tidings.steps, step.KeepsData) ∧
      ¬ (tidingsEngine.ordering false).HangsOpenly "run" request (.start ()) () ∧
      ¬ (tidingsEngine.ordering true).HangsOpenly "again" request (.start ()) () ∧
      ∃ order, Schedule.order tidings.steps true = .ok order ∧
        Engine.Alike tidings.steps order (.start ()) (.start ())
          ((tidingsEngine.ordering false).run "run" submission (.start ()) ())
          ((tidingsEngine.ordering true).run "again" submission (.start ()) ()) := by
  have hfunctional : tidingsEngine.registry.Functional :=
    Registry.functional_standard stateless_functional _
  have hparsed : tidingsEngine.LooksUpParsed := Engine.looksUpParsed_knowing tidings_parsed _
  have haccept : submission.accept = .ok request := by rfl
  have hloads : tidingsEngine.Loads "checks" () tidings := ⟨rfl, rfl⟩
  have hkeeps : ∀ step ∈ tidings.steps, step.KeepsData := by
    intro step hstep config hconfig
    have hsteps : step = tell ∨ step = fetch := by simpa [tidings] using hstep
    rcases hsteps with rfl | rfl <;> cases hconfig
  have hends : ∀ byDependency id,
      ¬ (tidingsEngine.ordering byDependency).HangsOpenly id request (.start ()) () :=
    fun _ _ => Engine.not_hangsOpenly_of_responsive rfl stateless_responsive
      (by simp [Engine.ordering, tidingsEngine, Engine.knowing])
  refine ⟨hfunctional, hparsed, haccept, hloads, hkeeps, hends _ _, hends _ _, ?_⟩
  refine (Engine.alike_by_dependency_iff_not_unspeakable hfunctional hparsed haccept hloads hloads
    hkeeps (hends _ _) (hends _ _)).mpr ?_
  intro step hstep
  have heffective : tidingsEngine.registry.deadlines.effective step = none := by
    have hsteps : step = tell ∨ step = fetch := by simpa [tidings] using hstep
    rcases hsteps with rfl | rfl <;> rfl
  rw [heffective]
  exact not_unspeakable_of_none

/-- With an unspeakable deadline neither order gets anywhere. -/
theorem overdue_checks_abort_in_either_order :
    overdueEngine.registry.Functional ∧ overdueEngine.LooksUpParsed ∧
      submission.accept = .ok request ∧ overdueEngine.Loads "checks" () definition ∧
      (∀ step ∈ definition.steps, step.KeepsData) ∧
      (∀ byDependency id,
        ¬ (overdueEngine.ordering byDependency).HangsOpenly id request (.start ()) ()) ∧
      ((overdueEngine.ordering false).run "run" submission (.start ()) ()).ending.record?.map
          (fun record => (record.status, record.error))
        = some (.failed,
            some "Step 'second' raised unexpectedly: int too large to convert to float") ∧
      ((overdueEngine.ordering true).run "run" submission (.start ()) ()).ending.record?.map
          (fun record => (record.status, record.error))
        = some (.failed,
            some "Step 'first' raised unexpectedly: int too large to convert to float") := by
  have hfunctional : collaborators.Functional := by
    constructor <;> rintro service ⟨⟩
  refine ⟨Registry.functional_standard hfunctional _, ?_, by rfl, ⟨rfl, rfl⟩, ?_, ?_,
    by decide +kernel, by decide +kernel⟩
  · exact Engine.looksUpParsed_knowing definition_parsed (.standard collaborators overdue)
  · intro step hstep config hconfig
    have hsteps : step = check "second" ["first"] ∨ step = check "first" [] := by
      simpa [definition] using hstep
    rcases hsteps with rfl | rfl <;> cases hconfig
  · intro byDependency id
    exact Engine.not_hangsOpenly_of_responsive rfl collaborators_responsive
      (by simp [Engine.ordering, overdueEngine, Engine.knowing])

end Sample

end Runbook
