import Runbook.Proofs.Definition
import Runbook.Proofs.Dependency.Search

/-!
# What the dependency check reports

References come first: the first one, steps and dependencies in order, that names no other declared
step is reported, whatever cycles there are besides. Where every reference names another declared
step, the check fails exactly if some step leads back to itself, and then it reports a cycle.
-/

namespace Runbook

/-- A step of the first id lists the second. -/
def DependsOn (steps : List Step) (id dependency : String) : Prop :=
  ∃ step ∈ steps, step.id = id ∧ dependency ∈ step.dependencies

/-- Each id with each that it lists, in order of declaration. -/
def references (steps : List Step) : List (String × String) :=
  steps.flatMap fun step => step.dependencies.map fun dependency => (step.id, dependency)

/-- The reference is to no declared step, or to the step that makes it. -/
def IsStray (steps : List Step) (reference : String × String) : Prop :=
  reference.2 ∉ steps.map (·.id) ∨ reference.2 = reference.1

variable {steps : List Step}

theorem mem_references_iff {id dependency : String} :
    (id, dependency) ∈ references steps ↔ DependsOn steps id dependency := by
  simp only [references, DependsOn, List.mem_flatMap, List.mem_map, Prod.mk.injEq]
  constructor
  · rintro ⟨step, hstep, listed, hlisted, hid, rfl⟩
    exact ⟨step, hstep, hid, hlisted⟩
  · rintro ⟨step, hstep, hid, hlisted⟩
    exact ⟨step, hstep, dependency, hlisted, hid, rfl⟩

namespace DependencyGraph

variable {graph : DependencyGraph}

/-! ### References in order -/

/-- The error that a reference calls for. -/
def referenceError? (graph : DependencyGraph) (reference : String × String) :
    Option DependencyError :=
  if reference.2 ∉ Entries.keys graph then some (.unknown reference.1 reference.2)
  else if reference.2 = reference.1 then some (.itself reference.1)
  else none

theorem badReference?_eq_findSome? (graph : DependencyGraph) (id : String)
    (dependencies : List String) :
    graph.badReference? id dependencies
      = (dependencies.map fun dependency => (id, dependency)).findSome? graph.referenceError? := by
  induction dependencies with
  | nil => rfl
  | cons first rest ih =>
    have hhas : Entries.has graph first = decide (first ∈ Entries.keys graph) := by
      rw [Bool.eq_iff_iff, Entries.has_iff, decide_eq_true_iff]
    by_cases hknown : first ∈ Entries.keys graph
    · by_cases hself : first = id
      · subst hself
        simp [badReference?, referenceError?, hhas, hknown]
      · simp [badReference?, referenceError?, hhas, hknown, hself, ih]
    · simp [badReference?, referenceError?, hhas, hknown]

theorem firstBadReference?_eq_findSome? (graph : DependencyGraph) (steps : List Step) :
    graph.firstBadReference? (ofSteps steps)
      = (references steps).findSome? graph.referenceError? := by
  induction steps with
  | nil => rfl
  | cons step rest ih =>
    have hsplit : references (step :: rest)
        = (step.dependencies.map fun dependency => (step.id, dependency)) ++ references rest := rfl
    rw [hsplit, List.findSome?_append, ← badReference?_eq_findSome?, ← ih]
    simp only [ofSteps, List.map_cons, firstBadReference?]
    cases graph.badReference? step.id step.dependencies <;> rfl

theorem referenceError?_eq_none_iff {reference : String × String} :
    (ofSteps steps).referenceError? reference = none ↔ ¬ IsStray steps reference := by
  rw [referenceError?, keys_ofSteps, IsStray]
  by_cases hknown : reference.2 ∈ steps.map (·.id)
  · rw [if_neg (not_not_intro hknown)]
    by_cases hself : reference.2 = reference.1
    · simp [hself]
    · simp [hknown, hself]
  · simp [hknown]

theorem firstBadReference?_eq_none_iff :
    (ofSteps steps).firstBadReference? (ofSteps steps) = none ↔
      ∀ reference ∈ references steps, ¬ IsStray steps reference := by
  rw [firstBadReference?_eq_findSome?, List.findSome?_eq_none_iff]
  exact forall₂_congr fun reference _ => referenceError?_eq_none_iff

/-- The first stray reference decides what is reported. -/
theorem check_of_first_stray {before after : List (String × String)} {reference : String × String}
    (hsplit : references steps = before ++ reference :: after)
    (hbefore : ∀ earlier ∈ before, ¬ IsStray steps earlier) {error : DependencyError}
    (herror : (ofSteps steps).referenceError? reference = some error) :
    (ofSteps steps).check = .error error := by
  have hfound : (references steps).findSome? (ofSteps steps).referenceError? = some error := by
    refine List.findSome?_eq_some_iff.mpr ⟨before, reference, after, hsplit, herror, ?_⟩
    intro earlier hearlier
    exact referenceError?_eq_none_iff.mpr (hbefore earlier hearlier)
  rw [check, firstBadReference?_eq_findSome?, hfound]

/-! ### Cycles -/

theorem Search.exists_cycle_of_advance_error {search : Search} {error : DependencyError}
    (h : search.advance graph = .error error) : ∃ path, error = .cycle path := by
  unfold Search.advance at h
  split at h
  · cases h
  · split at h
    · exact ⟨_, (Except.error.inj h).symm⟩
    · cases h
    · cases h

/-- Where every reference is to a declared step, the check passes or reports a cycle that is there. -/
theorem check_of_firstBadReference?_eq_none (hkeys : (Entries.keys graph).Nodup)
    (hnone : graph.firstBadReference? graph = none) :
    graph.check = .ok () ∨
      (∃ path, graph.check = .error (.cycle path)) ∧
        ∃ id ∈ Entries.keys graph, Relation.TransGen graph.Lists id id := by
  rw [check, hnone]
  cases hexplored : Search.exploreAll graph (.start graph) (Entries.keys graph) with
  | ok explored => exact Or.inl rfl
  | error error =>
    have hclosed := closed_of_firstBadReference?_eq_none hkeys hnone
    obtain ⟨reached, hcoherent, herror⟩ :=
      (Search.coherent_start graph).exploreAll_error hclosed rfl hexplored
    obtain ⟨path, rfl⟩ := Search.exists_cycle_of_advance_error herror
    exact Or.inr ⟨⟨path, rfl⟩, hcoherent.exists_cyclic_of_advance_error herror⟩

section OfSteps

theorem firstBadReference?_ne_cycle (path : List String) :
    (ofSteps steps).firstBadReference? (ofSteps steps) ≠ some (.cycle path) := by
  rw [firstBadReference?_eq_findSome?]
  intro hfound
  obtain ⟨reference, -, herror⟩ := List.exists_of_findSome?_eq_some hfound
  unfold referenceError? at herror
  split at herror
  · cases herror
  · split at herror <;> cases herror

theorem firstBadReference?_eq_none_of_check_eq_cycle {path : List String}
    (hpath : (ofSteps steps).check = .error (.cycle path)) :
    (ofSteps steps).firstBadReference? (ofSteps steps) = none := by
  cases hfirst : (ofSteps steps).firstBadReference? (ofSteps steps) with
  | none => rfl
  | some error =>
    have herror : error = .cycle path := by simpa [check, hfirst] using hpath
    exact absurd (herror ▸ hfirst) (firstBadReference?_ne_cycle path)

variable (hids : (steps.map (·.id)).Nodup)
include hids

theorem lists_ofSteps : (ofSteps steps).Lists = DependsOn steps := by
  funext id dependency
  apply propext
  constructor
  · intro hlists
    obtain ⟨step, hstep, rfl⟩ := mem_keys_ofSteps_iff.mp hlists.declared
    exact ⟨step, hstep, rfl, (lists_ofSteps_iff hids hstep).mp hlists⟩
  · rintro ⟨step, hstep, rfl, hdependency⟩
    exact (lists_ofSteps_iff hids hstep).mpr hdependency

/-- The steps are all grounded exactly if they list declared steps only and none leads back to
itself. -/
theorem sound_ofSteps_iff :
    (ofSteps steps).Sound ↔
      (∀ step ∈ steps, ∀ dependency ∈ step.dependencies, dependency ∈ steps.map (·.id)) ∧
        ∀ step ∈ steps, ¬ Relation.TransGen (DependsOn steps) step.id step.id := by
  have hdeclared : ∀ step ∈ steps, step.id ∈ Entries.keys (ofSteps steps) :=
    fun step hstep => mem_keys_ofSteps_iff.mpr ⟨step, hstep, rfl⟩
  rw [← lists_ofSteps hids]
  constructor
  · intro hsound
    constructor
    · intro step hstep dependency hdependency
      have hlists : (ofSteps steps).Lists step.id dependency :=
        (lists_ofSteps_iff hids hstep).mpr hdependency
      rw [← keys_ofSteps]
      exact ((hsound step.id (hdeclared step hstep)).dependency hlists).declared
    · intro step hstep
      exact (hsound step.id (hdeclared step hstep)).not_cyclic
  · rintro ⟨hknown, hacyclic⟩
    have hnone : (ofSteps steps).firstBadReference? (ofSteps steps) = none := by
      rw [firstBadReference?_eq_none_iff]
      rintro ⟨id, dependency⟩ hreference
      obtain ⟨step, hstep, rfl, hlisted⟩ := mem_references_iff.mp hreference
      rintro (hunknown | hself)
      · exact hunknown (hknown step hstep dependency hlisted)
      · apply hacyclic step hstep
        obtain rfl : dependency = step.id := hself
        exact .single ((lists_ofSteps_iff hids hstep).mpr hlisted)
    have hkeys := nodup_keys_ofSteps hids
    rw [← check_eq_ok_iff hkeys]
    -- The search stops early only over a cycle, and there is none.
    refine (check_of_firstBadReference?_eq_none hkeys hnone).resolve_right ?_
    rintro ⟨-, id, hid, hcycle⟩
    obtain ⟨step, hstep, rfl⟩ := mem_keys_ofSteps_iff.mp hid
    exact hacyclic step hstep hcycle

/-- A cycle is reported exactly if there is one and every reference is to another declared step. -/
theorem check_ofSteps_eq_cycle_iff :
    (∃ path, (ofSteps steps).check = .error (.cycle path)) ↔
      (ofSteps steps).firstBadReference? (ofSteps steps) = none ∧
        ∃ step ∈ steps, Relation.TransGen (DependsOn steps) step.id step.id := by
  have hkeys := nodup_keys_ofSteps hids
  constructor
  · rintro ⟨path, hpath⟩
    have hnone := firstBadReference?_eq_none_of_check_eq_cycle hpath
    rcases check_of_firstBadReference?_eq_none hkeys hnone with hok | ⟨-, id, hid, hcycle⟩
    · simp [hok] at hpath
    · obtain ⟨step, hstep, rfl⟩ := mem_keys_ofSteps_iff.mp hid
      exact ⟨hnone, step, hstep, lists_ofSteps hids ▸ hcycle⟩
  · rintro ⟨hnone, step, hstep, hcycle⟩
    rcases check_of_firstBadReference?_eq_none hkeys hnone with hok | ⟨hreported, -⟩
    · have hsound := (check_eq_ok_iff hkeys).mp hok
      exact absurd hcycle (((sound_ofSteps_iff hids).mp hsound).2 step hstep)
    · exact hreported

end OfSteps

end DependencyGraph

/-! ### The check as a whole -/

/-- The check fails exactly over an undeclared dependency or a step that leads back to itself. The
first stray reference is what is reported, and a cycle only where there is none. -/
theorem checkDependencies_reports (hids : (steps.map (·.id)).Nodup) :
    ((∃ error, checkDependencies steps = .error error) ↔
      (∃ step ∈ steps, ∃ dependency ∈ step.dependencies, dependency ∉ steps.map (·.id)) ∨
        ∃ step ∈ steps, Relation.TransGen (DependsOn steps) step.id step.id) ∧
    (∀ before id dependency after,
      references steps = before ++ (id, dependency) :: after →
      (∀ reference ∈ before, ¬ IsStray steps reference) →
        (dependency ∉ steps.map (·.id) →
          checkDependencies steps = .error (.unknown id dependency)) ∧
        (dependency = id → checkDependencies steps = .error (.itself id))) ∧
    ((∃ path, checkDependencies steps = .error (.cycle path)) ↔
      (∀ reference ∈ references steps, ¬ IsStray steps reference) ∧
        ∃ step ∈ steps, Relation.TransGen (DependsOn steps) step.id step.id) := by
  have hkeys := DependencyGraph.nodup_keys_ofSteps hids
  refine ⟨?_, ?_, ?_⟩
  · calc (∃ error, checkDependencies steps = .error error)
        ↔ ¬ checkDependencies steps = .ok () := by
          cases checkDependencies steps <;> simp
      _ ↔ ¬ (DependencyGraph.ofSteps steps).Sound :=
          not_congr (DependencyGraph.check_eq_ok_iff hkeys)
      _ ↔ _ := by
          rw [DependencyGraph.sound_ofSteps_iff hids, Classical.not_and_iff_not_or_not]
          simp only [Classical.not_forall, Classical.not_not, exists_prop]
  · intro before id dependency after hsplit hbefore
    constructor
    · intro hunknown
      apply DependencyGraph.check_of_first_stray hsplit hbefore
      rw [DependencyGraph.referenceError?, DependencyGraph.keys_ofSteps, if_pos hunknown]
    · rintro rfl
      have hmade : (dependency, dependency) ∈ references steps := by simp [hsplit]
      obtain ⟨step, hstep, hid, -⟩ := mem_references_iff.mp hmade
      have hknown : dependency ∈ steps.map (·.id) := List.mem_map.mpr ⟨step, hstep, hid⟩
      apply DependencyGraph.check_of_first_stray hsplit hbefore
      rw [DependencyGraph.referenceError?, DependencyGraph.keys_ofSteps,
        if_neg (not_not_intro hknown), if_pos rfl]
  · rw [← DependencyGraph.firstBadReference?_eq_none_iff]
    exact DependencyGraph.check_ofSteps_eq_cycle_iff hids

/-- Steps that lead back to themselves behind a reference to no step. -/
def Sample.haunted : List Step :=
  [check "a" ["b"], check "b" ["a", "ghost"], check "c" ["c"]]

/-- A step on a cycle that is searched after one that is finished. -/
def Sample.lateCycle : List Step :=
  [check "a" [], check "b" ["a", "c"], check "c" ["a", "b"]]

theorem Sample.ghost_reported_before_cycles :
    ((haunted.map (·.id)).Nodup ∧
      checkDependencies haunted = .error (.unknown "b" "ghost")) ∧
    (lateCycle.map (·.id)).Nodup ∧
      ∃ path, checkDependencies lateCycle = .error (.cycle path) := by
  have hhaunted : (haunted.map (·.id)).Nodup := by decide
  have hlate : (lateCycle.map (·.id)).Nodup := by decide
  refine ⟨⟨hhaunted, ?_⟩, hlate, ?_⟩
  · obtain ⟨-, hfirst, -⟩ := checkDependencies_reports hhaunted
    refine (hfirst [("a", "b"), ("b", "a")] "b" "ghost" [("c", "c")] rfl ?_).1 (by decide)
    unfold IsStray
    decide
  · obtain ⟨-, -, hcycle⟩ := checkDependencies_reports hlate
    have hthere : DependsOn lateCycle "b" "c" :=
      ⟨check "b" ["a", "c"], by simp [lateCycle], rfl, by decide⟩
    have hback : DependsOn lateCycle "c" "b" :=
      ⟨check "c" ["a", "b"], by simp [lateCycle], rfl, by decide⟩
    refine hcycle.mpr ⟨?_, check "b" ["a", "c"], by simp [lateCycle], .tail (.single hthere) hback⟩
    unfold IsStray
    decide

end Runbook
