import Mathlib.Logic.Relation
import Runbook.Dependency

/-!
# Grounded steps

A declared step is *grounded* when all its dependencies are grounded. The notion needs no order and no
path: a step that lists an unknown step, or that leads back to itself, has no finite derivation. Both
the depth-first search and the greedy schedule turn out to accept the graphs in which every step is
grounded, and no others.
-/

namespace Runbook.DependencyGraph

variable {graph : DependencyGraph}

inductive Grounded (graph : DependencyGraph) : String → Prop where
  | intro {id : String} (hid : id ∈ Entries.keys graph)
      (hdependencies : ∀ dependency ∈ graph.dependenciesOf id, Grounded graph dependency) :
      Grounded graph id

/-- Every declared step is grounded. -/
def Sound (graph : DependencyGraph) : Prop :=
  ∀ id ∈ Entries.keys graph, graph.Grounded id

/-- Every dependency of a declared step names a declared step. -/
def Closed (graph : DependencyGraph) : Prop :=
  ∀ id ∈ Entries.keys graph, ∀ dependency ∈ graph.dependenciesOf id, dependency ∈ Entries.keys graph

/-- One step lists the other. -/
def Lists (graph : DependencyGraph) (id dependency : String) : Prop :=
  dependency ∈ graph.dependenciesOf id

theorem Lists.declared {id dependency : String} (h : graph.Lists id dependency) :
    id ∈ Entries.keys graph := by
  rw [← Entries.get?_isSome_iff]
  unfold Lists dependenciesOf at h
  cases hget : Entries.get? graph id with
  | none => simp [hget] at h
  | some dependencies => rfl

theorem Grounded.declared {id : String} (h : graph.Grounded id) : id ∈ Entries.keys graph := by
  cases h with
  | intro hid _ => exact hid

theorem Grounded.dependency {id dependency : String} (h : graph.Grounded id)
    (hlists : graph.Lists id dependency) : graph.Grounded dependency := by
  cases h with
  | intro _ hdependencies => exact hdependencies dependency hlists

/-- A set of steps in which each lists another one of the set holds no grounded step. -/
theorem Grounded.not_stuck (stuck : String → Prop)
    (hstuck : ∀ id, stuck id → ∃ dependency, graph.Lists id dependency ∧ stuck dependency)
    {id : String} (h : graph.Grounded id) : ¬ stuck id := by
  induction h with
  | intro _ _ ih =>
    intro hid
    obtain ⟨dependency, hlists, hdependency⟩ := hstuck _ hid
    exact ih dependency hlists hdependency

/-- A grounded step does not lead back to itself. -/
theorem Grounded.not_cyclic {id : String} (h : graph.Grounded id) :
    ¬ Relation.TransGen graph.Lists id id := by
  refine h.not_stuck (fun other => Relation.TransGen graph.Lists other other) ?_
  intro other hcycle
  obtain ⟨dependency, hlists, hback⟩ := Relation.TransGen.head'_iff.mp hcycle
  exact ⟨dependency, hlists, Relation.TransGen.tail' hback hlists⟩

/-! ### The graph of a list of steps -/

section OfSteps

variable {steps : List Step}

theorem keys_ofSteps (steps : List Step) :
    Entries.keys (ofSteps steps) = steps.map (·.id) := by
  simp [Entries.keys, ofSteps]

theorem mem_keys_ofSteps_iff {id : String} :
    id ∈ Entries.keys (ofSteps steps) ↔ ∃ step ∈ steps, step.id = id := by
  rw [keys_ofSteps, List.mem_map]

theorem nodup_keys_ofSteps (hids : (steps.map (·.id)).Nodup) :
    (Entries.keys (ofSteps steps)).Nodup := by
  rwa [keys_ofSteps]

theorem dependenciesOf_ofSteps (hids : (steps.map (·.id)).Nodup) {step : Step}
    (hstep : step ∈ steps) : (ofSteps steps).dependenciesOf step.id = step.dependencies := by
  have hget : Entries.get? (ofSteps steps) step.id = some step.dependencies :=
    Entries.get?_of_mem (nodup_keys_ofSteps hids) (List.mem_map.mpr ⟨step, hstep, rfl⟩)
  simp [dependenciesOf, hget]

theorem lists_ofSteps_iff (hids : (steps.map (·.id)).Nodup) {step : Step} (hstep : step ∈ steps)
    {dependency : String} :
    (ofSteps steps).Lists step.id dependency ↔ dependency ∈ step.dependencies := by
  rw [Lists, dependenciesOf_ofSteps hids hstep]

end OfSteps

/-! ### References -/

theorem badReference?_eq_none {id : String} {dependencies : List String}
    (h : graph.badReference? id dependencies = none) :
    ∀ dependency ∈ dependencies, dependency ∈ Entries.keys graph := by
  induction dependencies with
  | nil => simp
  | cons first rest ih =>
    unfold badReference? at h
    split at h
    · cases h
    · next hknown =>
      split at h
      · cases h
      · rw [List.forall_mem_cons]
        exact ⟨(Entries.has_iff graph first).mp (by simpa using hknown), ih h⟩

theorem badReference?_of_grounded {id : String} {dependencies : List String}
    (hid : graph.Grounded id) (hlists : ∀ dependency ∈ dependencies, graph.Lists id dependency) :
    graph.badReference? id dependencies = none := by
  induction dependencies with
  | nil => rfl
  | cons first rest ih =>
    rw [List.forall_mem_cons] at hlists
    have hknown : Entries.has graph first = true :=
      (Entries.has_iff graph first).mpr (hid.dependency hlists.1).declared
    have hother : first ≠ id := by
      rintro rfl
      exact hid.not_cyclic (.single hlists.1)
    simp [badReference?, hknown, hother, ih hlists.2]

theorem closed_of_firstBadReference?_eq_none (hkeys : (Entries.keys graph).Nodup)
    (h : graph.firstBadReference? graph = none) : graph.Closed := by
  have hall : ∀ entries : DependencyGraph, graph.firstBadReference? entries = none →
      ∀ entry ∈ entries, ∀ dependency ∈ entry.2, dependency ∈ Entries.keys graph := by
    intro entries hnone
    induction entries with
    | nil => simp
    | cons entry rest ih =>
      unfold firstBadReference? at hnone
      split at hnone
      · cases hnone
      · next hentry =>
        rw [List.forall_mem_cons]
        exact ⟨badReference?_eq_none hentry, ih hnone⟩
  intro id hid dependency hdependency
  obtain ⟨entry, hentry, rfl⟩ := List.mem_map.mp hid
  have hget : Entries.get? graph entry.1 = some entry.2 := Entries.get?_of_mem hkeys hentry
  rw [dependenciesOf, hget] at hdependency
  exact hall graph h entry hentry dependency hdependency

theorem firstBadReference?_of_sound (hkeys : (Entries.keys graph).Nodup) (h : graph.Sound) :
    graph.firstBadReference? graph = none := by
  have hall : ∀ entries : DependencyGraph, (∀ entry ∈ entries, entry ∈ graph) →
      graph.firstBadReference? entries = none := by
    intro entries hsub
    induction entries with
    | nil => rfl
    | cons entry rest ih =>
      rw [List.forall_mem_cons] at hsub
      have hget : Entries.get? graph entry.1 = some entry.2 := Entries.get?_of_mem hkeys hsub.1
      have hgood : graph.badReference? entry.1 entry.2 = none :=
        badReference?_of_grounded (h entry.1 (List.mem_map_of_mem hsub.1))
          (by simp [Lists, dependenciesOf, hget])
      simp [firstBadReference?, hgood, ih hsub.2]
  exact hall graph fun _ hentry => hentry

end Runbook.DependencyGraph
