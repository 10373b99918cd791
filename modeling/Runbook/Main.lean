import Runbook.Store.Demo

/-!
The command line: stores the demonstration in a new catalogue and tells what was done.
-/

open Runbook

def main : IO UInt32 := do
  match (Store.Demo.seed .empty).2 with
  | .ok lines =>
    lines.forM IO.println
    return 0
  | .error failure =>
    IO.eprintln failure.message
    return 1
