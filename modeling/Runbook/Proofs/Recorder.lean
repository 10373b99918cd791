import Runbook.Recorder

/-!
# The calls of a sink

A sink can be watched: it does what it does and keeps a list of the calls that it gets. What a recorder
writes is then in plain sight, whatever the sink makes of it.
-/

namespace Runbook

/-- A call of a sink, with the entry that it hands over. -/
inductive SinkCall where
  | append (entry : RunEntry)
  | appendStep (entry : StepEntry)

/-- The sink, with a list of the calls so far beside its state. -/
def Sink.watched {τ : Type} (sink : Sink τ) : Sink (τ × List SinkCall) where
  append entry state :=
    ((sink.append entry state.1).1, (sink.append entry state.1).2, state.2 ++ [.append entry])
  appendStep entry state :=
    ((sink.appendStep entry state.1).1, (sink.appendStep entry state.1).2,
      state.2 ++ [.appendStep entry])

namespace Recorder

variable {τ : Type} (recorder : Recorder τ)

def watched : Recorder (τ × List SinkCall) where
  sink := recorder.sink.map Sink.watched
  stepsWanted := recorder.stepsWanted

def runCalls (entry : RunEntry) : List SinkCall :=
  match recorder.sink with
  | some _ => [.append entry]
  | none => []

def stepCalls (entry : StepEntry) : List SinkCall :=
  match recorder.stepSink? with
  | some _ => [.appendStep entry]
  | none => []

theorem record_watched (entry : RunEntry) (state : τ × List SinkCall) :
    recorder.watched.record entry state
      = ((recorder.record entry state.1).1, (recorder.record entry state.1).2,
          state.2 ++ recorder.runCalls entry) := by
  cases hsink : recorder.sink with
  | none => simp [record, watched, runCalls, hsink]
  | some sink =>
    rcases hreply : sink.append entry state.1 with ⟨_ | failure, next⟩ <;>
      simp [record, watched, runCalls, hsink, Sink.watched, hreply]

theorem stepSink?_watched : recorder.watched.stepSink? = recorder.stepSink?.map Sink.watched := by
  unfold stepSink? watched
  split <;> rfl

theorem recordStep_watched (entry : StepEntry) (state : τ × List SinkCall) :
    recorder.watched.recordStep entry state
      = ((recorder.recordStep entry state.1).1, (recorder.recordStep entry state.1).2,
          state.2 ++ recorder.stepCalls entry) := by
  cases hsink : recorder.stepSink? with
  | none => simp [recordStep, stepSink?_watched, stepCalls, hsink]
  | some sink =>
    rcases hreply : sink.appendStep entry state.1 with ⟨_ | failure, next⟩ <;>
      simp [recordStep, stepSink?_watched, stepCalls, hsink, Sink.watched, hreply]

theorem runCalls_of_sink {sink : Sink τ} (hsink : recorder.sink = some sink) (entry : RunEntry) :
    recorder.runCalls entry = [.append entry] := by
  simp [runCalls, hsink]

theorem stepCalls_of_sink {sink : Sink τ} (hsink : recorder.sink = some sink) (entry : StepEntry) :
    recorder.stepCalls entry = if recorder.stepsWanted then [.appendStep entry] else [] := by
  unfold stepCalls stepSink?
  cases recorder.stepsWanted <;> simp [hsink]

end Recorder

end Runbook
