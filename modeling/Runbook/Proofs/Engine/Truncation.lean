import Runbook.Proofs.Engine.Noninterference

/-!
# The part of a run before a fault

A run that stops at a fault has taken the first steps of its order, and nothing of the step at fault is
left in it but what that step's executor did to the world. A definition of those first steps alone is
accepted and ordered as it stands, and its run goes through the same points: only the number of steps
that are planned is another.
-/

namespace Runbook

variable {σ τ : Type}

/-- The entry of a step that a sink was called with. -/
def SinkCall.stepEntry? : SinkCall → Option StepEntry
  | .appendStep entry => some entry
  | .append _ => none

/-- The point of a run with another number of steps planned. -/
def Progress.withTotal (progress : Progress σ τ) (total : Int) : Progress σ τ :=
  { progress with record := { progress.record with totalSteps := total } }

namespace Engine

/-- The engine with definitions from elsewhere. -/
def lookingUp (engine : Engine σ τ) (lookup : Service σ String (Option Definition)) : Engine σ τ :=
  { engine with lookup }

variable {engine : Engine σ τ} {steps rest : List Step} {progress next last : Progress σ τ}

/-! ### Other totals -/

theorem recordStep_withTotal (engine : Engine σ τ) (step : Step) (result : StepResult)
    (progress : Progress σ τ) (total : Int) :
    engine.recordStep step result (progress.withTotal total)
      = (engine.recordStep step result progress).withTotal total := by
  unfold recordStep
  rcases hanswer : engine.recorder.recordStep _ progress.sink with ⟨_ | entry, sink⟩ <;>
    simp only [Progress.withTotal, hanswer, Progress.afterRecording]

/-- A step is taken alike with another total, as long as that leaves room for it. -/
theorem takeStep_withTotal {step : Step} (htaken : engine.takeStep step progress = .continued next)
    {total : Int} (hroom : progress.record.stepsCompleted < total) :
    engine.takeStep step (progress.withTotal total) = .continued (next.withTotal total) ∧
      next.record.stepsCompleted = progress.record.stepsCompleted + 1 := by
  obtain ⟨result, after, record, hinvoke, hfiled, rfl⟩ := takeStep_eq_continued htaken
  obtain ⟨hfresh, hrecord⟩ := Record.eq_of_addResult hfiled
  have hinvoke' : engine.invoke (progress.withTotal total).record (progress.withTotal total).data step
      (progress.withTotal total).stage = (.answered (.ok result), after) := hinvoke
  have hfiled' : (progress.withTotal total).record.addResult step.id result
      = .ok { record with totalSteps := total } := by
    rw [hrecord]
    exact Record.addResult_of_fresh hfresh hroom
  constructor
  · simp only [takeStep, hinvoke', hfiled']
    exact congrArg Course.continued (engine.recordStep_withTotal step result
      { progress with
        record, stage := after, data := applyOutput step result progress.data } total)
  · rw [record_recordStep, hrecord]

/-- The steps taken up to some point can be taken as a run of their own. -/
theorem Reaches.withTotal (h : engine.Reaches steps progress rest last) :
    ∃ taken, taken ++ rest = steps ∧
      ∀ total, progress.record.stepsCompleted + taken.length ≤ total →
        engine.Reaches taken (progress.withTotal total) [] (last.withTotal total) := by
  induction h with
  | refl => exact ⟨[], rfl, fun total _ => .refl _ _⟩
  | @step step steps rest progress next last htaken _ ih =>
    obtain ⟨taken, rfl, hreach⟩ := ih
    refine ⟨step :: taken, rfl, fun total htotal => ?_⟩
    rw [List.length_cons] at htotal
    have hroom : progress.record.stepsCompleted < total := by omega
    obtain ⟨htaken', hcompleted⟩ := takeStep_withTotal htaken hroom
    exact .step htaken' (hreach total (by omega))

theorem Reaches.lookingUp (h : engine.Reaches steps progress rest last)
    (lookup : Service σ String (Option Definition)) :
    (engine.lookingUp lookup).Reaches steps progress rest last := by
  induction h with
  | refl => exact .refl _ _
  | step htaken _ ih => exact .step htaken ih

/-! ### Endings -/

theorem unlogged_finish (engine : Engine σ τ) (status : Status) (error : Option String)
    (errorStatus : Option Int) (progress : Progress σ τ) :
    (engine.finish status error errorStatus progress).stage.unlogged = progress.stage.unlogged :=
  congrArg Progress.stage (plain_finish status error errorStatus progress)

theorem unlogged_conclude_continued (engine : Engine σ τ) (progress : Progress σ τ) :
    (engine.conclude (.continued progress)).stage.unlogged = progress.stage.unlogged := by
  simp only [conclude, finished, unlogged_finish]
  split <;> rfl

theorem unlogged_conclude_faulted (engine : Engine σ τ) (fault : EngineFault)
    (progress : Progress σ τ) :
    (engine.conclude (.faulted fault progress)).stage.unlogged = progress.stage.unlogged := by
  simp only [conclude, finished, unlogged_finish]
  rfl

section Watched

variable (engine) (progress : Progress σ (τ × List SinkCall))

theorem stepEntries_finish (status : Status) (error : Option String) (errorStatus : Option Int) :
    (engine.watched.finish status error errorStatus progress).sink.2.filterMap SinkCall.stepEntry?
      = progress.sink.2.filterMap SinkCall.stepEntry? := by
  rw [finish, Progress.sink_afterRecording,
    show engine.watched.recorder = engine.recorder.watched from rfl, Recorder.record_watched,
    List.filterMap_append]
  have hrun : ∀ entry, (engine.recorder.runCalls entry).filterMap SinkCall.stepEntry? = [] := by
    intro entry
    unfold Recorder.runCalls
    split <;> rfl
  rw [hrun, List.append_nil]
  rfl

theorem stepEntries_conclude_continued :
    (engine.watched.conclude (.continued progress)).sink.2.filterMap SinkCall.stepEntry?
      = progress.sink.2.filterMap SinkCall.stepEntry? := by
  simp only [conclude, finished, stepEntries_finish]
  split <;> rfl

theorem stepEntries_conclude_faulted (fault : EngineFault) :
    (engine.watched.conclude (.faulted fault progress)).sink.2.filterMap SinkCall.stepEntry?
      = progress.sink.2.filterMap SinkCall.stepEntry? := by
  simp only [conclude, finished, stepEntries_finish]
  rfl

end Watched

/-! ### The run of the first steps -/

section Front

variable (hparsed : engine.LooksUpParsed) {id : String} {request : RunRequest} {stage : Stage σ}
  {sink : τ} {order : List Step} {record : Record} {data : Data} {position : Nat}
include hparsed

/-- A run that was given up stops at a fault, and before it has taken the first steps of its order. -/
theorem exists_fault_of_aborted (hruns : engine.RunsOver request stage order)
    (hending : (engine.execute id request stage sink).ending = .finished record data)
    (haborted : record.AbortedAt order position) :
    ∃ step rest last fault after, order = order.take position ++ step :: rest ∧
      engine.Reaches order (engine.opening id request stage sink order) (step :: rest) last ∧
      engine.invoke last.record last.data step last.stage = (.answered (.error fault), after) ∧
      engine.execute id request stage sink
        = engine.conclude (.faulted fault { last with stage := after }) := by
  obtain ⟨left, last, course, hreach, hstops, htaken⟩ :=
    Reaches.exists_stop (hruns.nodup_ids hparsed)
      (.refl order (engine.opening id request stage sink order))
  rw [execute_of_runsOver hruns, htaken] at hending ⊢
  cases hstops with
  | done =>
    rw [ending_conclude_continued] at hending
    obtain ⟨rfl, -⟩ := Ending.finished.inj hending
    cases haborted.status
  | @faulted step rest _ fault after hinvoke =>
    obtain ⟨taken, hsplit, haccounts⟩ := hreach.accounts (hruns.nodup_ids hparsed)
    -- The steps that the record counts are the ones before the step at fault.
    have hposition : position = taken.length := by
      rw [ending_conclude_faulted] at hending
      obtain ⟨rfl, -⟩ := Ending.finished.inj hending
      exact Int.ofNat_inj.mp (haborted.completed.symm.trans haccounts.completed)
    refine ⟨step, rest, last, fault, after, ?_, hreach, hinvoke, rfl⟩
    rw [← hsplit, hposition, List.take_left]
  | stalled => cases hending

variable {front : Definition} {lookup : Service σ String (Option Definition)}

/-- The first steps of a run by dependency are accepted, and left in their order. -/
theorem front_ordered (hordered : engine.byDependency = true)
    (hruns : engine.RunsOver request stage order) (hfront : front.steps = order.take position) :
    checkDependencies front.steps = .ok () ∧ Schedule.order front.steps true = .ok front.steps := by
  have hids : (front.steps.map (·.id)).Nodup := by
    rw [hfront]
    exact ((List.take_sublist position order).map _).nodup (hruns.nodup_ids hparsed)
  have hrespects : Schedule.Respects [] front.steps := by
    rw [hfront]
    exact (hruns.respects hordered).take position
  have hsame : Schedule.order front.steps true = .ok front.steps :=
    Schedule.order_of_respects hrespects
  exact ⟨(Schedule.exists_order_iff_check hids).mp ⟨_, hsame⟩, hsame⟩

section Lookup

variable (hordered : engine.byDependency = true) (hruns : engine.RunsOver request stage order)
  (hfront : front.steps = order.take position)
  (hlookup : lookup request.workflowId stage.world
    = (.answered (some front), (engine.lookup request.workflowId stage.world).2))
include hordered hruns hfront hlookup

theorem runsOver_front : (engine.lookingUp lookup).RunsOver request stage front.steps := by
  obtain ⟨hcheck, hsame⟩ := front_ordered hparsed hordered hruns hfront
  refine ⟨front, ⟨?_, hcheck⟩, ?_⟩
  · exact congrArg Prod.fst hlookup
  · exact hordered ▸ hsame

/-- The run of the first steps ends where the other one comes to the next step. -/
theorem execute_front {step : Step} {rest : List Step} {last : Progress σ τ}
    (hsplit : order = front.steps ++ step :: rest)
    (hreach : engine.Reaches order (engine.opening id request stage sink order) (step :: rest) last) :
    (engine.lookingUp lookup).execute id request stage sink
      = (engine.lookingUp lookup).conclude (.continued (last.withTotal front.steps.length)) := by
  have hlookedUp : (engine.lookingUp lookup).lookedUp request.workflowId (greeted request stage)
      = engine.lookedUp request.workflowId (greeted request stage) := by
    unfold lookedUp
    exact congrArg (fun reply => { greeted request stage with world := reply.2 }) hlookup
  have hopening : (engine.lookingUp lookup).opening id request stage sink front.steps
      = (engine.opening id request stage sink order).withTotal front.steps.length := by
    unfold opening
    rw [hlookedUp]
    rfl
  obtain ⟨taken, htaken, hwithTotal⟩ := hreach.withTotal
  obtain rfl : taken = front.steps := List.append_cancel_right (htaken.trans hsplit)
  have hfull := (hwithTotal front.steps.length (by simp [opening, Record.begin])).lookingUp lookup
  rw [execute_of_runsOver (runsOver_front hparsed hordered hruns hfront hlookup), hopening,
    hfull.takeSteps]
  rfl

end Lookup

/-- A run that was given up at a step beside one that ends before it. -/
structure Truncation (engine : Engine σ τ) (whole part : Run σ τ) (front : List Step)
    (record : Record) (data : Data) (step : Step) (point : Progress σ τ) : Prop where
  /-- The other run is complete, with the results and the data of the one given up. -/
  ending : ∃ own, part.ending = .finished own data ∧ own.Complete front ∧
    own.results = record.results
  /-- It leaves the calls and the world as they were when the step at fault was come to. -/
  before : part.stage.unlogged = point.stage.unlogged
  /-- What the run given up has beyond that, it has from the executor of the step at fault. -/
  beyond : ∃ fault after,
    engine.invoke point.record point.data step point.stage = (.answered (.error fault), after) ∧
      whole.stage.unlogged = after.unlogged ∧ record.error = some fault.message

end Front

/-- **A fault cuts a run off cleanly.** Let a run by dependency be given up at some position of its order.
The steps before that position, as a definition of their own, are accepted and stay as they are ordered.
On the same stage their run completes with the results and the data of the run that was given up, with
the calls that were made before the step at fault, and with the same entries of steps in the log of
executions. -/
theorem fault_truncates (hparsed : engine.LooksUpParsed) (hordered : engine.byDependency = true)
    (id : String) {submission : Submission} {request : RunRequest}
    (haccept : submission.accept = .ok request) {stage : Stage σ} {sink : τ} {order : List Step}
    (hruns : engine.RunsOver request stage order) {record : Record} {data : Data}
    (hending : (engine.run id submission stage sink).ending = .finished record data)
    {position : Nat} (haborted : record.AbortedAt order position) {front : Definition}
    (hfront : front.steps = order.take position)
    {lookup : Service σ String (Option Definition)}
    (hlookup : lookup request.workflowId stage.world
      = (.answered (some front), (engine.lookup request.workflowId stage.world).2)) :
    checkDependencies front.steps = .ok () ∧
      Schedule.order front.steps true = .ok front.steps ∧
      (∃ step rest point, order = front.steps ++ step :: rest ∧
        engine.ComesTo id request stage sink (step :: rest) point ∧
        engine.Truncation (engine.run id submission stage sink)
          ((engine.lookingUp lookup).run id submission stage sink) front.steps record data step
          point) ∧
      ((engine.lookingUp lookup).watched.run id submission stage (sink, [])).sink.2.filterMap
          SinkCall.stepEntry?
        = (engine.watched.run id submission stage (sink, [])).sink.2.filterMap
          SinkCall.stepEntry? := by
  rw [run_of_accept haccept] at hending
  obtain ⟨hcheck, hsame⟩ := front_ordered hparsed hordered hruns hfront
  refine ⟨hcheck, hsame, ?_, ?_⟩
  · obtain ⟨step, rest, last, fault, after, hsplit, hreach, hinvoke, hfaulted⟩ :=
      exists_fault_of_aborted hparsed hruns hending haborted
    rw [← hfront] at hsplit
    have hcomplete := execute_front hparsed hordered hruns hfront hlookup hsplit hreach
    rw [run_of_accept haccept, run_of_accept haccept, hcomplete, hfaulted]
    rw [hfaulted, ending_conclude_faulted] at hending
    obtain ⟨rfl, rfl⟩ := Ending.finished.inj hending
    have haccounts : (last.withTotal front.steps.length).record.Accounts front.steps [] := by
      obtain ⟨taken, htaken, haccounts⟩ := hreach.accounts (hruns.nodup_ids hparsed)
      obtain rfl : taken = front.steps := List.append_cancel_right (htaken.trans hsplit)
      exact ⟨haccounts.results, haccounts.completed, by simp [Progress.withTotal]⟩
    refine ⟨step, rest, last, hsplit, ⟨order, hruns, hreach⟩, ?_⟩
    exact {
      ending := ⟨_, ending_conclude_continued _, haccounts.complete _, rfl⟩
      before := unlogged_conclude_continued _ _
      beyond := ⟨fault, after, hinvoke, unlogged_conclude_faulted _ _ _, rfl⟩ }
  · -- The same two runs once more, with the sink watched.
    have hwatched : (engine.watched.execute id request stage (sink, [])).ending
        = .finished record data := by
      rw [← hending, ← engine.unwatched_execute id request stage (sink, [])]
      rfl
    have hparsed' : engine.watched.LooksUpParsed := hparsed
    have hruns' : engine.watched.RunsOver request stage order := hruns
    obtain ⟨step, rest, last, fault, after, hsplit, hreach, hinvoke, hfaulted⟩ :=
      exists_fault_of_aborted hparsed' hruns' hwatched haborted
    rw [← hfront] at hsplit
    have hcomplete := execute_front hparsed' hordered hruns' hfront hlookup hsplit hreach
    have hpart : (engine.lookingUp lookup).watched.execute id request stage (sink, [])
        = (engine.watched.lookingUp lookup).execute id request stage (sink, []) := rfl
    rw [run_of_accept haccept, run_of_accept haccept, hpart, hfaulted, hcomplete,
      stepEntries_conclude_faulted]
    exact stepEntries_conclude_continued (engine.lookingUp lookup) _

end Engine

namespace Sample

/-- The part of the sample before the step with which the unruly executor breaks the rules. -/
def front : Definition :=
  { definition with steps := [check "first" []] }

def lookupFront : Service Unit String (Option Definition) :=
  fun _ => pure (some front)

theorem order_definition :
    Schedule.order definition.steps true = .ok [check "first" [], check "second" ["first"]] := by
  rw [Schedule.order_eq_ok_iff, definition]
  rw [Schedule.orderFrom_of_some rfl, Schedule.orderFrom_of_some rfl, Schedule.orderFrom_of_none rfl]
  rfl

theorem aborted_checks_truncated :
    loggingEngine.LooksUpParsed ∧ loggingEngine.byDependency = true ∧
      submission.accept = .ok request ∧
      loggingEngine.RunsOver request (.start ()) [check "first" [], check "second" ["first"]] ∧
      ∃ record data step point,
        (loggingEngine.run "run" submission (.start ()) .empty).ending = .finished record data ∧
        record.AbortedAt [check "first" [], check "second" ["first"]] 1 ∧
        loggingEngine.Truncation (loggingEngine.run "run" submission (.start ()) .empty)
          ((loggingEngine.lookingUp lookupFront).run "run" submission (.start ()) .empty)
          front.steps record data step point := by
  have hparsed : loggingEngine.LooksUpParsed := engine_looksUpParsed
  have haccept : submission.accept = .ok request := by rfl
  have hruns : loggingEngine.RunsOver request (.start ())
      [check "first" [], check "second" ["first"]] := ⟨definition, ⟨rfl, rfl⟩, order_definition⟩
  have hended : (loggingEngine.run "run" submission (.start ()) .empty).ending.record?.map
      (fun record => (record.status, record.error.isSome, record.errorStatus))
        = some (.failed, true, some 500) := by
    decide +kernel
  have htook : (loggingEngine.run "run" submission (.start ()) .empty).ending.record?.map
      (fun record => (Entries.keys record.results, record.stepsCompleted, record.totalSteps))
        = some (["first"], 1, 2) := by
    decide +kernel
  refine ⟨hparsed, rfl, haccept, hruns, ?_⟩
  cases hending : (loggingEngine.run "run" submission (.start ()) .empty).ending with
  | finished record data =>
    rw [hending] at hended htook
    obtain ⟨hstatus, herror, herrorStatus⟩ : record.status = .failed ∧ record.error.isSome = true ∧
        record.errorStatus = some 500 := by simpa [Ending.record?] using hended
    obtain ⟨hresults, hcompleted, htotal⟩ : Entries.keys record.results = ["first"] ∧
        record.stepsCompleted = 1 ∧ record.totalSteps = 2 := by simpa [Ending.record?] using htook
    have haborted : record.AbortedAt [check "first" [], check "second" ["first"]] 1 :=
      { status := hstatus
        error := Option.isSome_iff_ne_none.mp herror
        errorStatus := herrorStatus
        results := hresults
        completed := hcompleted
        early := by decide
        total := htotal }
    have hfront : front.steps = [check "first" [], check "second" ["first"]].take 1 := rfl
    have hlookup : lookupFront request.workflowId ()
        = (.answered (some front), (loggingEngine.lookup request.workflowId ()).2) := rfl
    obtain ⟨-, -, ⟨step, rest, point, -, -, htruncation⟩, -⟩ := Engine.fault_truncates hparsed rfl
      "run" haccept hruns hending haborted hfront hlookup
    exact ⟨record, data, step, point, rfl, haborted, htruncation⟩
  | refused | escaped | stalled =>
    rw [hending] at hended
    cases hended

end Sample

end Runbook
