import Runbook.Proofs.Dependency.Search
import Runbook.Schedule

/-!
# The greedy schedule

Taking the first ready step again and again gives a permutation of the steps in which each comes after
its dependencies, and it gets stuck only when some remaining step is not grounded. So a schedule exists
exactly for the graphs that the depth-first search accepts.
-/

namespace Runbook.Schedule

open DependencyGraph (ofSteps)

variable {done : List String} {steps remaining ordered : List Step}

/-! ### One choice -/

theorem isReady_iff {step : Step} :
    isReady done step = true ↔ ∀ dependency ∈ step.dependencies, dependency ∈ done := by
  simp [isReady]

theorem takeReady?_eq_none_iff :
    takeReady? done steps = none ↔ ∀ step ∈ steps, isReady done step = false := by
  induction steps with
  | nil => simp [takeReady?]
  | cons step rest ih =>
    cases hready : isReady done step <;> simp [takeReady?, hready, ih]

theorem takeReady?_eq_some {ready : Step} {others : List Step}
    (h : takeReady? done steps = some (ready, others)) :
    isReady done ready = true ∧ (ready :: others).Perm steps := by
  induction steps generalizing others with
  | nil => cases h
  | cons step rest ih =>
    unfold takeReady? at h
    split at h
    · next hready =>
      obtain ⟨rfl, rfl⟩ := Prod.mk.inj (Option.some.inj h)
      exact ⟨hready, .refl _⟩
    · obtain ⟨⟨found, left⟩, hfound, heq⟩ := Option.map_eq_some_iff.mp h
      obtain ⟨rfl, rfl⟩ := Prod.mk.inj heq
      obtain ⟨hready, hperm⟩ := ih hfound
      exact ⟨hready, (List.Perm.swap step found left).trans (hperm.cons step)⟩

/-! ### The whole order -/

/-- Each step comes after its dependencies, of which some are done before. -/
def Respects (done : List String) : List Step → Prop
  | [] => True
  | step :: rest =>
    (∀ dependency ∈ step.dependencies, dependency ∈ done) ∧ Respects (step.id :: done) rest

theorem respects_append {front back : List Step} :
    Respects done (front ++ back)
      ↔ Respects done front ∧ Respects ((front.map (·.id)).reverse ++ done) back := by
  induction front generalizing done with
  | nil => simp [Respects]
  | cons step front ih => simp [Respects, ih, and_assoc]

theorem Respects.take (h : Respects done steps) (count : Nat) : Respects done (steps.take count) := by
  rw [← List.take_append_drop count steps, respects_append] at h
  exact h.1

theorem orderFrom_of_none (h : takeReady? done remaining = none) :
    orderFrom done remaining = if remaining.isEmpty then some [] else none := by
  rw [orderFrom]
  split
  · rfl
  · next htaken => simp [h] at htaken

theorem orderFrom_of_some {ready : Step} {others : List Step}
    (h : takeReady? done remaining = some (ready, others)) :
    orderFrom done remaining = (orderFrom (ready.id :: done) others).map (ready :: ·) := by
  rw [orderFrom]
  split
  · next htaken => simp [h] at htaken
  · next htaken =>
    obtain ⟨rfl, rfl⟩ := Prod.mk.inj (Option.some.inj (h.symm.trans htaken))
    rfl

theorem orderFrom_eq_some (h : orderFrom done remaining = some ordered) :
    ordered.Perm remaining ∧ Respects done ordered := by
  induction hlength : remaining.length using Nat.strongRecOn generalizing done remaining ordered with
  | ind length ih =>
    cases htaken : takeReady? done remaining with
    | none =>
      rw [orderFrom_of_none htaken] at h
      split at h
      · next hempty =>
        obtain rfl := List.isEmpty_iff.mp hempty
        obtain rfl := Option.some.inj h
        exact ⟨.refl _, trivial⟩
      · cases h
    | some taken =>
      obtain ⟨ready, others⟩ := taken
      rw [orderFrom_of_some htaken] at h
      obtain ⟨rest, hrest, rfl⟩ := Option.map_eq_some_iff.mp h
      obtain ⟨hready, hperm⟩ := takeReady?_eq_some htaken
      obtain ⟨hothers, hrespects⟩ :=
        ih others.length (hlength ▸ length_lt_of_takeReady? htaken) hrest rfl
      exact ⟨(hothers.cons ready).trans hperm, isReady_iff.mp hready, hrespects⟩

/-- Steps that come after their dependencies already stay where they are. -/
theorem orderFrom_of_respects (h : Respects done steps) : orderFrom done steps = some steps := by
  induction steps generalizing done with
  | nil => exact orderFrom_of_none rfl
  | cons step rest ih =>
    obtain ⟨hdependencies, hrest⟩ := h
    have htaken : takeReady? done (step :: rest) = some (step, rest) := by
      rw [takeReady?, if_pos (isReady_iff.mpr hdependencies)]
    rw [orderFrom_of_some htaken, ih hrest]
    rfl

/-! ### Schedules and grounded steps -/

section Grounded

variable (hids : (steps.map (·.id)).Nodup)
include hids

/-- Steps that come after their dependencies are grounded once what is done before is. -/
theorem grounded_of_respects (hrespects : Respects done ordered) (hsub : ∀ step ∈ ordered, step ∈ steps)
    (hdone : ∀ id ∈ done, (ofSteps steps).Grounded id) :
    ∀ step ∈ ordered, (ofSteps steps).Grounded step.id := by
  induction ordered generalizing done with
  | nil => simp
  | cons first rest ih =>
    obtain ⟨hdependencies, hrest⟩ := hrespects
    rw [List.forall_mem_cons] at hsub ⊢
    have hfirst : (ofSteps steps).Grounded first.id := by
      refine .intro (DependencyGraph.mem_keys_ofSteps_iff.mpr ⟨first, hsub.1, rfl⟩) ?_
      intro dependency hdependency
      rw [DependencyGraph.dependenciesOf_ofSteps hids hsub.1] at hdependency
      exact hdone dependency (hdependencies dependency hdependency)
    exact ⟨hfirst, ih hrest hsub.2 (by simpa [hfirst] using hdone)⟩

/-- As long as a grounded step remains, one of the remaining steps is ready. -/
theorem exists_ready_of_grounded (hcover : ∀ step ∈ steps, step.id ∈ done ∨ step ∈ remaining)
    {id : String} (hid : (ofSteps steps).Grounded id) :
    ∀ step ∈ steps, step.id = id → step ∈ remaining →
      ∃ ready ∈ remaining, isReady done ready = true := by
  induction hid with
  | @intro id _ hdependencies ih =>
    rintro step hstep rfl hremaining
    -- A step that is not ready waits for a dependency, and that one remains and is grounded.
    by_cases hready : isReady done step = true
    · exact ⟨step, hremaining, hready⟩
    · have hwaiting : ∃ dependency ∈ step.dependencies, dependency ∉ done := by
        simpa [isReady_iff] using hready
      obtain ⟨dependency, hdependency, hopen⟩ := hwaiting
      rw [DependencyGraph.dependenciesOf_ofSteps hids hstep] at hdependencies ih
      obtain ⟨other, hother, rfl⟩ :=
        DependencyGraph.mem_keys_ofSteps_iff.mp (hdependencies dependency hdependency).declared
      exact ih other.id hdependency other hother rfl ((hcover other hother).resolve_left hopen)

theorem exists_orderFrom (hsound : (ofSteps steps).Sound) (hsub : ∀ step ∈ remaining, step ∈ steps)
    (hcover : ∀ step ∈ steps, step.id ∈ done ∨ step ∈ remaining) :
    ∃ ordered, orderFrom done remaining = some ordered := by
  induction hlength : remaining.length using Nat.strongRecOn generalizing done remaining with
  | ind length ih =>
    cases htaken : takeReady? done remaining with
    | none =>
      rw [orderFrom_of_none htaken]
      cases hremaining : remaining with
      | nil => exact ⟨[], rfl⟩
      | cons step rest =>
        have hmem : step ∈ remaining := by simp [hremaining]
        have hgrounded : (ofSteps steps).Grounded step.id :=
          hsound step.id (DependencyGraph.mem_keys_ofSteps_iff.mpr ⟨step, hsub step hmem, rfl⟩)
        obtain ⟨ready, hready, hisReady⟩ :=
          exists_ready_of_grounded hids hcover hgrounded step (hsub step hmem) rfl hmem
        rw [takeReady?_eq_none_iff] at htaken
        simp [htaken ready hready] at hisReady
    | some taken =>
      obtain ⟨ready, others⟩ := taken
      have hperm := (takeReady?_eq_some htaken).2
      have hrest : ∃ ordered, orderFrom (ready.id :: done) others = some ordered := by
        refine ih others.length (hlength ▸ length_lt_of_takeReady? htaken) ?_ ?_ rfl
        · exact fun step hstep => hsub step (hperm.mem_iff.mp (List.mem_cons_of_mem _ hstep))
        · intro step hstep
          rcases hcover step hstep with hdone | hremaining
          · exact Or.inl (List.mem_cons_of_mem _ hdone)
          · rcases List.mem_cons.mp (hperm.mem_iff.mpr hremaining) with rfl | hothers
            · exact Or.inl List.mem_cons_self
            · exact Or.inr hothers
      obtain ⟨ordered, hordered⟩ := hrest
      exact ⟨ready :: ordered, by rw [orderFrom_of_some htaken, hordered]; rfl⟩

/-- The steps have a schedule exactly when all of them are grounded. -/
theorem exists_orderFrom_iff_sound :
    (∃ ordered, orderFrom [] steps = some ordered) ↔ (ofSteps steps).Sound := by
  constructor
  · rintro ⟨ordered, hordered⟩ id hid
    obtain ⟨hperm, hrespects⟩ := orderFrom_eq_some hordered
    obtain ⟨step, hstep, rfl⟩ := DependencyGraph.mem_keys_ofSteps_iff.mp hid
    exact grounded_of_respects hids hrespects (fun _ => hperm.mem_iff.mp) (by simp) step
      (hperm.mem_iff.mpr hstep)
  · intro hsound
    exact exists_orderFrom hids hsound (fun _ hstep => hstep) fun _ hstep => Or.inr hstep

end Grounded

/-! ### Orders -/

theorem order_eq_ok_iff : order steps true = .ok ordered ↔ orderFrom [] steps = some ordered := by
  unfold order
  cases orderFrom [] steps <;> simp

theorem order_perm {byDependency : Bool} (h : order steps byDependency = .ok ordered) :
    ordered.Perm steps := by
  cases byDependency with
  | false =>
    obtain rfl := Except.ok.inj h
    exact .refl _
  | true => exact (orderFrom_eq_some (order_eq_ok_iff.mp h)).1

/-- The schedule accepts the steps that pass the check of their dependencies, and no others. -/
theorem exists_order_iff_check (hids : (steps.map (·.id)).Nodup) :
    (∃ ordered, order steps true = .ok ordered) ↔ checkDependencies steps = .ok () := by
  unfold checkDependencies
  rw [DependencyGraph.check_eq_ok_iff (DependencyGraph.nodup_keys_ofSteps hids),
    ← exists_orderFrom_iff_sound hids]
  exact exists_congr fun _ => order_eq_ok_iff

theorem order_of_respects (h : Respects [] steps) : order steps true = .ok steps :=
  order_eq_ok_iff.mpr (orderFrom_of_respects h)

/-- Steps that pass the check depend on others of the steps only. -/
theorem dependency_of_check (hids : (steps.map (·.id)).Nodup)
    (hcheck : checkDependencies steps = .ok ()) {step : Step} (hstep : step ∈ steps)
    {dependency : String} (hdependency : dependency ∈ step.dependencies) :
    dependency ∈ steps.map (·.id) ∧ dependency ≠ step.id := by
  have hsound : (ofSteps steps).Sound :=
    (DependencyGraph.check_eq_ok_iff (DependencyGraph.nodup_keys_ofSteps hids)).mp hcheck
  have hgrounded : (ofSteps steps).Grounded step.id :=
    hsound step.id (DependencyGraph.mem_keys_ofSteps_iff.mpr ⟨step, hstep, rfl⟩)
  have hlists : (ofSteps steps).Lists step.id dependency :=
    (DependencyGraph.lists_ofSteps_iff hids hstep).mpr hdependency
  constructor
  · rw [← DependencyGraph.keys_ofSteps]
    exact (hgrounded.dependency hlists).declared
  · rintro rfl
    exact hgrounded.not_cyclic (.single hlists)

/-- Steps that pass the check of their dependencies can be put in order. -/
theorem exists_order (hids : (steps.map (·.id)).Nodup) (hcheck : checkDependencies steps = .ok ())
    (byDependency : Bool) : ∃ ordered, order steps byDependency = .ok ordered := by
  cases byDependency with
  | false => exact ⟨steps, rfl⟩
  | true => exact (exists_order_iff_check hids).mpr hcheck

end Runbook.Schedule
