import Runbook.Recorder

/-!
An execution log in memory, and the sinks that write to it.
-/

namespace Runbook

/-- The entries of runs and steps, each the oldest first. -/
structure ExecutionLog where
  runs : List RunEntry
  steps : List StepEntry

namespace ExecutionLog

def empty : ExecutionLog := ⟨[], []⟩

/-- Keeps all entries. -/
def sink : Sink ExecutionLog where
  append entry log := (none, { log with runs := log.runs ++ [entry] })
  appendStep entry log := (none, { log with steps := log.steps ++ [entry] })

/-- Keeps the entries of runs and lets those of steps go. -/
def runSink : Sink ExecutionLog where
  append entry log := (none, { log with runs := log.runs ++ [entry] })
  appendStep _ log := (none, log)

/-- Takes nothing. -/
def brokenSink (failure : Failure) : Sink ExecutionLog where
  append _ log := (some failure, log)
  appendStep _ log := (some failure, log)

end ExecutionLog

end Runbook
