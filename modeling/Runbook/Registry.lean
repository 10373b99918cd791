import Runbook.Executor.Standard

/-!
The registry: the executors in charge of the step types, at most one for each.
-/

namespace Runbook

structure Registry (σ : Type) where
  executors : List (Executor σ)
  deadlines : Deadlines

namespace Registry

variable {σ : Type}

/-- All five executors, sharing their collaborators. -/
def standard (collaborators : Collaborators σ) (deadlines : Deadlines) : Registry σ :=
  { executors := StepType.all.map (Executor.standard collaborators), deadlines }

def find? (registry : Registry σ) (type : StepType) : Option (Executor σ) :=
  registry.executors.find? fun executor => executor.type == type

/-- Puts an executor in charge of its type; one that replaces another keeps its place. -/
def register (registry : Registry σ) (executor : Executor σ) : Registry σ :=
  { registry with
    executors :=
      if (registry.find? executor.type).isSome then
        registry.executors.map fun other => if other.type == executor.type then executor else other
      else registry.executors ++ [executor] }

def unregister (registry : Registry σ) (type : StepType) : Registry σ :=
  { registry with executors := registry.executors.filter fun executor => executor.type != type }

def availableTypes (registry : Registry σ) : List StepType :=
  registry.executors.map (·.type)

/-- What is said of an executor in a list of them. -/
def describe (executor : Executor σ) : Value :=
  .object [("step_type", .string executor.type.name),
    ("display_name", .string executor.displayName),
    ("description", .string executor.description), ("config_schema", executor.configSchema)]

def listAll (registry : Registry σ) : Value :=
  .list (registry.executors.map describe)

end Registry

end Runbook
