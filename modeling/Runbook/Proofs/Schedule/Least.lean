import Mathlib.Data.List.Nodup
import Runbook.Proofs.Dependency.Reference
import Runbook.Proofs.Schedule

/-!
# The schedule is the least of all

Of the orders in which every step comes after its dependencies, the greedy one is the least when two
orders are compared by the declared positions of their steps, from the front. At each point all orders
that agree so far go on with a ready step, and the greedy one takes the ready step declared first.
-/

namespace Runbook

namespace Schedule

variable {done : List String} {steps remaining ordered other : List Step}

/-- All the steps, each after those that it depends on. -/
structure IsTopological (steps ordered : List Step) : Prop where
  perm : ordered.Perm steps
  after : ∀ front step back, ordered = front ++ step :: back →
    ∀ dependency ∈ step.dependencies, dependency ∈ front.map (·.id)

theorem respects_iff :
    Respects done ordered ↔
      ∀ front step back, ordered = front ++ step :: back →
        ∀ dependency ∈ step.dependencies, dependency ∈ front.map (·.id) ∨ dependency ∈ done := by
  constructor
  · rintro h front step back rfl dependency hdependency
    have hstep := (respects_append.mp h).2.1 dependency hdependency
    simpa using hstep
  · intro h
    induction ordered generalizing done with
    | nil => trivial
    | cons first rest ih =>
      refine ⟨fun dependency hdependency => ?_, ih fun front step back hrest => ?_⟩
      · simpa using h [] first rest rfl dependency hdependency
      · intro dependency hdependency
        have hlater := h (first :: front) step back (by rw [hrest]; rfl) dependency hdependency
        rw [List.map_cons, List.mem_cons] at hlater
        rw [List.mem_cons]
        tauto

theorem isTopological_iff :
    IsTopological steps ordered ↔ ordered.Perm steps ∧ Respects [] ordered := by
  constructor
  · intro h
    refine ⟨h.perm, respects_iff.mpr fun front step back hsplit dependency hdependency => ?_⟩
    exact Or.inl (h.after front step back hsplit dependency hdependency)
  · rintro ⟨hperm, hrespects⟩
    refine ⟨hperm, fun front step back hsplit dependency hdependency => ?_⟩
    simpa using respects_iff.mp hrespects front step back hsplit dependency hdependency

/-! ### One choice -/

/-- The step taken is the first ready one, and the others stay in order. -/
theorem takeReady?_split {ready : Step} {others : List Step}
    (h : takeReady? done steps = some (ready, others)) :
    ∃ front back, steps = front ++ ready :: back ∧ others = front ++ back ∧
      ∀ step ∈ front, isReady done step = false := by
  induction steps generalizing others with
  | nil => cases h
  | cons step rest ih =>
    unfold takeReady? at h
    split at h
    · obtain ⟨rfl, rfl⟩ := Prod.mk.inj (Option.some.inj h)
      exact ⟨[], rest, rfl, rfl, by simp⟩
    · next hwaiting =>
      obtain ⟨⟨found, left⟩, hfound, heq⟩ := Option.map_eq_some_iff.mp h
      obtain ⟨rfl, rfl⟩ := Prod.mk.inj heq
      obtain ⟨front, back, rfl, rfl, hfront⟩ := ih hfound
      refine ⟨step :: front, back, rfl, rfl, ?_⟩
      rw [List.forall_mem_cons]
      exact ⟨by simpa using hwaiting, hfront⟩

/-! ### Declared positions -/

def position (steps : List Step) (step : Step) : Nat :=
  (steps.map (·.id)).idxOf step.id

theorem pairwise_position (hids : (steps.map (·.id)).Nodup) :
    steps.Pairwise fun first second => position steps first < position steps second := by
  rw [List.pairwise_iff_getElem]
  intro i j hi hj hlt
  have hposition : ∀ k (hk : k < steps.length), position steps steps[k] = k := by
    intro k hk
    have hidx := hids.idxOf_getElem k (by simpa using hk)
    simpa [position] using hidx
  rw [hposition i hi, hposition j hj]
  exact hlt

/-! ### The least order -/

/-- Another order of what remains either is the greedy one, or takes a step declared later where the
two part. -/
theorem orderFrom_least {rank : Step → Nat}
    (hsorted : remaining.Pairwise fun first second => rank first < rank second)
    (hordered : orderFrom done remaining = some ordered) (hperm : other.Perm remaining)
    (hrespects : Respects done other) :
    other = ordered ∨ List.Lex (· < ·) (ordered.map rank) (other.map rank) := by
  induction hlength : remaining.length using Nat.strongRecOn
    generalizing done remaining ordered other with
  | ind length ih =>
    cases htaken : takeReady? done remaining with
    | none =>
      rw [orderFrom_of_none htaken] at hordered
      split at hordered
      · next hempty =>
        obtain rfl := List.isEmpty_iff.mp hempty
        obtain rfl := Option.some.inj hordered
        exact Or.inl hperm.eq_nil
      · cases hordered
    | some taken =>
      obtain ⟨ready, others⟩ := taken
      rw [orderFrom_of_some htaken] at hordered
      obtain ⟨rest, hrest, rfl⟩ := Option.map_eq_some_iff.mp hordered
      obtain ⟨front, back, rfl, rfl, hwaiting⟩ := takeReady?_split htaken
      cases other with
      | nil => simp at hperm
      | cons first later =>
        obtain ⟨hdependencies, hlater⟩ := hrespects
        have hready : isReady done first = true := isReady_iff.mpr hdependencies
        have hmem : first ∈ front ++ ready :: back := hperm.mem_iff.mp List.mem_cons_self
        -- The other order starts with a ready step as well: the same one, or one declared later.
        rcases List.mem_append.mp hmem with hfront | hback
        · simp [hwaiting first hfront] at hready
        · rcases List.mem_cons.mp hback with rfl | hback
          · have hrestSorted : (front ++ back).Pairwise fun first second => rank first < rank second :=
              hsorted.sublist ((List.sublist_cons_self first back).append_left front)
            have hlaterPerm : later.Perm (front ++ back) :=
              (hperm.trans List.perm_middle).cons_inv
            have hshorter := hlength ▸ length_lt_of_takeReady? htaken
            rcases ih _ hshorter hrestSorted hrest hlaterPerm hlater rfl with rfl | hlex
            · exact Or.inl rfl
            · exact Or.inr (.cons hlex)
          · have hearlier : rank ready < rank first :=
              List.rel_of_pairwise_cons (List.pairwise_append.mp hsorted).2.1 hback
            exact Or.inr (.rel hearlier)

/-- Acyclic steps are put in an order in which each comes after its dependencies, the least such order
by declared positions. -/
theorem order_least (hids : (steps.map (·.id)).Nodup)
    (hdeclared : ∀ step ∈ steps, ∀ dependency ∈ step.dependencies, dependency ∈ steps.map (·.id))
    (hacyclic : ∀ step ∈ steps, ¬ Relation.TransGen (DependsOn steps) step.id step.id) :
    ∃ ordered, order steps true = .ok ordered ∧ IsTopological steps ordered ∧
      (∀ other, IsTopological steps other → other ≠ ordered →
        List.Lex (· < ·) (ordered.map (position steps)) (other.map (position steps))) ∧
      (IsTopological steps steps → ordered = steps) := by
  have hsound := (DependencyGraph.sound_ofSteps_iff hids).mpr ⟨hdeclared, hacyclic⟩
  obtain ⟨ordered, hordered⟩ := (exists_orderFrom_iff_sound hids).mpr hsound
  refine ⟨ordered, order_eq_ok_iff.mpr hordered, isTopological_iff.mpr (orderFrom_eq_some hordered),
    ?_, ?_⟩
  · intro other hother hne
    obtain ⟨hperm, hrespects⟩ := isTopological_iff.mp hother
    exact (orderFrom_least (pairwise_position hids) hordered hperm hrespects).resolve_left hne
  · intro hsteps
    have hunchanged := orderFrom_of_respects (isTopological_iff.mp hsteps).2
    exact Option.some.inj (hordered.symm.trans hunchanged)

end Schedule

/-- The first step waits for the last. -/
def Sample.waiting : List Step :=
  [check "x" ["z"], check "y" [], check "z" []]

theorem Sample.waiting_ordered_least :
    (waiting.map (·.id)).Nodup ∧
    (∀ step ∈ waiting, ∀ dependency ∈ step.dependencies, dependency ∈ waiting.map (·.id)) ∧
    (∀ step ∈ waiting, ¬ Relation.TransGen (DependsOn waiting) step.id step.id) ∧
    Schedule.order waiting true = .ok [check "y" [], check "z" [], check "x" ["z"]] ∧
    List.Lex (· < ·)
      ([check "y" [], check "z" [], check "x" ["z"]].map (Schedule.position waiting))
      ([check "z" [], check "x" ["z"], check "y" []].map (Schedule.position waiting)) := by
  have hids : (waiting.map (·.id)).Nodup := by decide
  have hkeys : (Entries.keys (DependencyGraph.ofSteps waiting)).Nodup := by decide
  have hsound : (DependencyGraph.ofSteps waiting).Sound :=
    (DependencyGraph.check_eq_ok_iff hkeys).mp rfl
  obtain ⟨hdeclared, hacyclic⟩ := (DependencyGraph.sound_ofSteps_iff hids).mp hsound
  have horder : Schedule.order waiting true
      = .ok [check "y" [], check "z" [], check "x" ["z"]] := by cbv
  obtain ⟨ordered, hordered, -, hleast, -⟩ := Schedule.order_least hids hdeclared hacyclic
  obtain rfl := Except.ok.inj (horder.symm.trans hordered)
  refine ⟨hids, hdeclared, hacyclic, horder, hleast _ ?_ (by simp [check])⟩
  refine Schedule.isTopological_iff.mpr ⟨?_, by simp [Schedule.Respects, check]⟩
  exact (List.perm_append_comm : ([check "z" []] ++ [check "x" ["z"], check "y" []]).Perm _)

end Runbook
