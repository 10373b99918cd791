import Runbook.Definition
import Runbook.Failure

/-!
The dependencies between steps: every one names another declared step, and none leads back to where
it started. Cycles are found by a depth-first search whose state is explicit.
-/

namespace Runbook

inductive DependencyError where
  | unknown (step dependency : String)
  | itself (step : String)
  /-- The steps of a cycle, the first one again at the end. -/
  | cycle (steps : List String)
  | unorderable
deriving DecidableEq, Repr

def DependencyError.message : DependencyError → String
  | .unknown step dependency => s!"Step '{step}' depends on unknown step '{dependency}'"
  | .itself step => s!"Step '{step}' depends on itself"
  | .cycle steps => "Dependency cycle detected: " ++ " -> ".intercalate steps
  | .unorderable => "Unable to order steps by dependencies"

def DependencyError.toFailure (error : DependencyError) : Failure :=
  .invalidDefinition error.message

/-- The ids of steps with the ids that each lists. -/
abbrev DependencyGraph := Entries (List String)

namespace DependencyGraph

def ofSteps (steps : List Step) : DependencyGraph :=
  steps.map fun step => (step.id, step.dependencies)

def dependenciesOf (graph : DependencyGraph) (id : String) : List String :=
  (Entries.get? graph id).getD []

/-! ### References -/

def badReference? (graph : DependencyGraph) (id : String) : List String → Option DependencyError
  | [] => none
  | dependency :: rest =>
    if !Entries.has graph dependency then some (.unknown id dependency)
    else if dependency == id then some (.itself id)
    else badReference? graph id rest

/-- The first reference, steps and dependencies in order, that names no other declared step. -/
def firstBadReference? (graph : DependencyGraph) : DependencyGraph → Option DependencyError
  | [] => none
  | (id, dependencies) :: rest =>
    match badReference? graph id dependencies with
    | some error => some error
    | none => firstBadReference? graph rest

/-! ### Cycles -/

inductive Colour where
  | unvisited
  | onPath
  | finished
deriving DecidableEq, Repr

/-- A depth-first search under way: the steps on the stack, the innermost first, each with the
dependencies not looked at yet, and the path from the root to the innermost step. -/
structure Search where
  colours : Entries Colour
  stack : List (String × List String)
  path : List String
deriving Repr

namespace Search

def start (graph : DependencyGraph) : Search :=
  { colours := Entries.mapValues (fun _ => .unvisited) graph, stack := [], path := [] }

def colour (search : Search) (id : String) : Colour :=
  (Entries.get? search.colours id).getD .finished

/-- What the dependencies not looked at yet call for. -/
inductive Finding where
  | cycleThrough (id : String)
  | descend (id : String) (rest : List String)
  | exhausted
deriving Repr

def scan (search : Search) : List String → Finding
  | [] => .exhausted
  | id :: rest => match search.colour id with
    | .onPath => .cycleThrough id
    | .unvisited => .descend id rest
    | .finished => scan search rest

/-- Enters a step that was not visited. -/
def enter (search : Search) (graph : DependencyGraph) (id : String) : Search :=
  { colours := Entries.put search.colours id .onPath
    stack := (id, graph.dependenciesOf id) :: search.stack
    path := search.path ++ [id] }

/-- The part of the path from a step on, closed by the step itself. -/
def cycleFrom (search : Search) (id : String) : List String :=
  search.path.dropWhile (· != id) ++ [id]

/-- One round: the innermost step is left when its dependencies are exhausted, else the search enters
the next one. -/
def advance (search : Search) (graph : DependencyGraph) : Except DependencyError Search :=
  match search.stack with
  | [] => .ok search
  | (id, dependencies) :: outer => match search.scan dependencies with
    | .cycleThrough other => .error (.cycle (search.cycleFrom other))
    | .descend other rest =>
      .ok ({ search with stack := (id, rest) :: outer }.enter graph other)
    | .exhausted =>
      .ok { colours := Entries.put search.colours id .finished
            stack := outer
            path := search.path.dropLast }

/-- Rounds until the stack is empty, at most as many as given. -/
def explore (graph : DependencyGraph) : Nat → Search → Except DependencyError Search
  | 0, search => .ok search
  | rounds + 1, search =>
    if search.stack.isEmpty then .ok search
    else (search.advance graph).bind (explore graph rounds)

/-- Searches from every step that is still unvisited. A search enters and leaves each step at most
once, so two rounds for each step are enough. -/
def exploreAll (graph : DependencyGraph) (search : Search) :
    List String → Except DependencyError Search
  | [] => .ok search
  | root :: rest => match search.colour root with
    | .unvisited =>
      (explore graph (2 * graph.length) (search.enter graph root)).bind
        fun search => exploreAll graph search rest
    | _ => exploreAll graph search rest

end Search

/-- The first fault of the dependencies: a reference to no other step, else a cycle. -/
def check (graph : DependencyGraph) : Except DependencyError Unit :=
  match firstBadReference? graph graph with
  | some error => .error error
  | none => (Search.exploreAll graph (.start graph) (Entries.keys graph)).map fun _ => ()

end DependencyGraph

def checkDependencies (steps : List Step) : Except DependencyError Unit :=
  (DependencyGraph.ofSteps steps).check

end Runbook
