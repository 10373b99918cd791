import Runbook.Dependency

/-!
The order in which the steps of a run are taken: as they are declared, or so that each comes after
its dependencies and otherwise as early as its place among the declared ones allows.
-/

namespace Runbook.Schedule

def isReady (done : List String) (step : Step) : Bool :=
  step.dependencies.all done.contains

/-- The first step whose dependencies are done, and the other steps. -/
def takeReady? (done : List String) : List Step → Option (Step × List Step)
  | [] => none
  | step :: rest =>
    if isReady done step then some (step, rest)
    else (takeReady? done rest).map fun (ready, others) => (ready, step :: others)

theorem length_lt_of_takeReady? {done : List String} {steps others : List Step} {ready : Step}
    (h : takeReady? done steps = some (ready, others)) : others.length < steps.length := by
  induction steps generalizing others with
  | nil => simp [takeReady?] at h
  | cons step rest ih =>
    unfold takeReady? at h
    split at h
    · simp only [Option.some.injEq, Prod.mk.injEq] at h
      simp [← h.2]
    · obtain ⟨⟨found, left⟩, hfound, heq⟩ := Option.map_eq_some_iff.1 h
      obtain ⟨rfl, rfl⟩ := Prod.mk.inj heq
      have := ih hfound
      simp
      omega

/-- Takes the first ready step again and again; none when steps remain and no one is ready. -/
def orderFrom (done : List String) (remaining : List Step) : Option (List Step) :=
  match _taken : takeReady? done remaining with
  | none => if remaining.isEmpty then some [] else none
  | some (ready, others) => (orderFrom (ready.id :: done) others).map (ready :: ·)
termination_by remaining.length
decreasing_by exact length_lt_of_takeReady? _taken

/-- The steps in the order of a run. -/
def order (steps : List Step) (byDependency : Bool) : Except DependencyError (List Step) :=
  if byDependency then
    match orderFrom [] steps with
    | some ordered => .ok ordered
    | none => .error .unorderable
  else .ok steps

end Runbook.Schedule
