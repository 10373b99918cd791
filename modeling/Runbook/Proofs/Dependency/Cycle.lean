import Mathlib.Data.List.Chain
import Mathlib.Data.List.Nodup
import Runbook.Proofs.Dependency.Reference

/-!
# The cycle that is reported

The path of a search under way follows dependencies, and no step is on it twice. A search gives up when
the innermost step lists one that is on the path already. What is reported is the path from there on,
with that step once more at its end: dependencies are followed all the way round, and nothing but the
end meets a step again. References from a step to itself are refused before any search, so that a cycle
goes through two steps at least.
-/

namespace Runbook

/-- A walk that comes back to where it started, over another step at least, and meets nothing else
twice. -/
structure IsSimpleCycle (leads : String → String → Prop) (cycle : List String) : Prop where
  three_le_length : 3 ≤ cycle.length
  closed : cycle.head? = cycle.getLast?
  nodup : cycle.dropLast.Nodup
  linked : cycle.IsChain leads

namespace DependencyGraph

variable {graph : DependencyGraph}

namespace Search

variable {search : Search}

/-- From the outermost frame inwards, each step lists the next one. -/
theorem Framed.isChain {finished : String → Prop} {inner : Option String}
    {frames : List (String × List String)} (h : Framed graph finished inner frames) :
    (frames.map (·.1)).reverse.IsChain graph.Lists := by
  rw [List.isChain_reverse]
  induction frames generalizing inner with
  | nil => exact .nil
  | cons frame outer ih =>
    obtain ⟨_, _, _, _, houter⟩ := h
    rw [List.map_cons, List.isChain_cons]
    refine ⟨?_, ih houter⟩
    -- The frame outside is inside of this one.
    cases outer with
    | nil => simp
    | cons next _ =>
      rintro _ ⟨⟩
      exact houter.2.2.1 frame.1 rfl

/-- The path splits at a step that is on it, and the cycle from that step takes the second part. -/
theorem exists_cycleFrom_eq {id : String} (hid : id ∈ search.path) :
    ∃ before after, search.path = before ++ id :: after ∧
      search.cycleFrom id = id :: after ++ [id] := by
  obtain ⟨before, after, hpath, hbefore⟩ := List.eq_append_cons_of_mem hid
  refine ⟨before, after, hpath, ?_⟩
  have hskipped : ∀ other ∈ before, (other != id) = true := by
    intro other hother
    rw [bne_iff_ne]
    rintro rfl
    exact hbefore hother
  rw [cycleFrom, hpath, List.dropWhile_append_of_pos hskipped]
  simp

/-- The innermost step is the last one on the path. -/
theorem Coherent.getLast?_path (h : Coherent graph search) {id : String} {rest : List String}
    {outer : List (String × List String)} (hstack : search.stack = (id, rest) :: outer) :
    search.path.getLast? = some id := by
  simp [h.path, hstack]

/-- A path that the innermost step closes to a step on it closes a simple cycle. -/
theorem Coherent.isSimpleCycle_cycleFrom (h : Coherent graph search)
    (hirreflexive : ∀ id, ¬ graph.Lists id id) {id other : String} {rest : List String}
    {outer : List (String × List String)} (hstack : search.stack = (id, rest) :: outer)
    (hlists : graph.Lists id other) (hcolour : search.colour other = .onPath) :
    IsSimpleCycle graph.Lists (search.cycleFrom other) := by
  have hmem : other ∈ search.path := by
    rw [h.path, List.mem_reverse]
    exact (h.onPath other).mp hcolour
  obtain ⟨before, after, hpath, hcycle⟩ := exists_cycleFrom_eq hmem
  have hlast : (other :: after).getLast? = some id := by
    rw [← h.getLast?_path hstack, hpath, List.getLast?_append_of_ne_nil _ (List.cons_ne_nil _ _)]
  have hsuffix : other :: after <:+ search.path := ⟨before, hpath.symm⟩
  have hchain : search.path.IsChain graph.Lists := h.path ▸ h.framed.isChain
  have hnodup : search.path.Nodup := by
    rw [h.path, List.nodup_reverse]
    exact h.nodup
  have hafter : after ≠ [] := by
    rintro rfl
    obtain rfl : other = id := by simpa using hlast
    exact hirreflexive other hlists
  rw [hcycle]
  refine
    { three_le_length := ?_
      closed := by rw [List.getLast?_concat, List.cons_append, List.head?_cons]
      nodup := ?_
      linked := ?_ }
  · have hlength := List.length_pos_iff.mpr hafter
    simp only [List.length_append, List.length_cons, List.length_nil]
    omega
  · rw [List.dropLast_concat]
    exact hnodup.sublist hsuffix.sublist
  · refine (hchain.suffix hsuffix).append (.singleton other) ?_
    intro last hinner next hnext
    obtain rfl : id = last := Option.some.inj (hlast.symm.trans hinner)
    obtain rfl : other = next := by simpa using hnext
    exact hlists

/-- A round that gives up has found a simple cycle. -/
theorem Coherent.isSimpleCycle_of_advance_error (h : Coherent graph search)
    (hirreflexive : ∀ id, ¬ graph.Lists id id) {cycle : List String}
    (herror : search.advance graph = .error (.cycle cycle)) : IsSimpleCycle graph.Lists cycle := by
  unfold Search.advance at herror
  split at herror
  · cases herror
  · next id dependencies outer hstack =>
    split at herror
    · next other hscan =>
      cases herror
      obtain ⟨hlisted, hcolour⟩ := scan_eq_cycleThrough hscan
      have hlists : graph.Lists id other := (hstack ▸ h.framed).2.1 other hlisted
      exact h.isSimpleCycle_cycleFrom hirreflexive hstack hlists hcolour
    · cases herror
    · cases herror

end Search

/-! ### The check -/

section OfSteps

variable {steps : List Step} (hids : (steps.map (·.id)).Nodup)
include hids

theorem lists_irreflexive (hnone : (ofSteps steps).firstBadReference? (ofSteps steps) = none)
    (id : String) : ¬ (ofSteps steps).Lists id id := by
  rw [lists_ofSteps hids, ← mem_references_iff]
  intro hreference
  exact firstBadReference?_eq_none_iff.mp hnone (id, id) hreference (Or.inr rfl)

theorem isSimpleCycle_of_check_eq_cycle {cycle : List String}
    (hcheck : (ofSteps steps).check = .error (.cycle cycle)) :
    IsSimpleCycle (DependsOn steps) cycle := by
  have hkeys := nodup_keys_ofSteps hids
  have hnone := firstBadReference?_eq_none_of_check_eq_cycle hcheck
  rw [check, hnone] at hcheck
  rw [← lists_ofSteps hids]
  cases hexplored :
      Search.exploreAll (ofSteps steps) (.start (ofSteps steps)) (Entries.keys (ofSteps steps)) with
  | ok explored => simp [hexplored, Except.map] at hcheck
  | error error =>
    obtain rfl : error = .cycle cycle := by simpa [hexplored, Except.map] using hcheck
    have hclosed := closed_of_firstBadReference?_eq_none hkeys hnone
    obtain ⟨reached, hcoherent, herror⟩ :=
      (Search.coherent_start (ofSteps steps)).exploreAll_error hclosed rfl hexplored
    exact hcoherent.isSimpleCycle_of_advance_error (lists_irreflexive hids hnone) herror

end OfSteps

end DependencyGraph

/-- Only the text about a cycle starts this way. -/
theorem DependencyError.eq_cycle_of_message {error : DependencyError}
    (hmessage : "Dependency cycle detected".toList <+: error.message.toList) :
    ∃ cycle, error = .cycle cycle := by
  unfold message at hmessage
  cases error with
  | cycle cycle => exact ⟨cycle, rfl⟩
  | unknown step dependency => simp [toString] at hmessage
  | itself step => simp [toString] at hmessage
  | unorderable => simp at hmessage

/-- An error about a cycle spells out a simple cycle of the dependencies. -/
theorem checkDependencies_cycle_simple {steps : List Step} (hids : (steps.map (·.id)).Nodup)
    {error : DependencyError} (herror : checkDependencies steps = .error error)
    (hmessage : "Dependency cycle detected".toList <+: error.message.toList) :
    ∃ cycle, error = .cycle cycle ∧
      error.message = "Dependency cycle detected: " ++ " -> ".intercalate cycle ∧
      IsSimpleCycle (DependsOn steps) cycle := by
  obtain ⟨cycle, rfl⟩ := DependencyError.eq_cycle_of_message hmessage
  exact ⟨cycle, rfl, rfl, DependencyGraph.isSimpleCycle_of_check_eq_cycle hids herror⟩

/-- A way into a cycle, with a finished step beside it. -/
def Sample.lasso : List Step :=
  [check "e" [], check "a" ["e", "b"], check "b" ["e", "c"], check "c" ["d"], check "d" ["e", "b"]]

theorem Sample.lasso_reports_loop :
    (lasso.map (·.id)).Nodup ∧
      checkDependencies lasso = .error (.cycle ["b", "c", "d", "b"]) ∧
      IsSimpleCycle (DependsOn lasso) ["b", "c", "d", "b"] := by
  have hids : (lasso.map (·.id)).Nodup := by decide
  have herror : checkDependencies lasso = .error (.cycle ["b", "c", "d", "b"]) := by decide
  obtain ⟨cycle, hcycle, -, hsimple⟩ := checkDependencies_cycle_simple hids herror (by decide)
  obtain rfl := DependencyError.cycle.inj hcycle
  exact ⟨hids, herror, hsimple⟩

end Runbook
