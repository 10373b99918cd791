import Runbook.Proofs.Dependency.Cycle

/-!
# The rounds of the search

`Search.Comes` lists the states that the search over all roots comes to, each with the number of rounds
so far and with no bound on them. At every such state the path is the stack read from the outside, each
step on it lists the next one, the steps on it are those coloured so, and what a finished step lists is
finished. A round enters a step for the first time or finishes one, so that two rounds for each step
are enough over all roots together; the search goes through these rounds to its end.
-/

namespace Runbook

namespace DependencyGraph

variable {graph : DependencyGraph}

namespace Search

variable {search next : Search} {rounds : Nat} {roots : List String}

/-! ### The states of a search -/

/-- The states that the search over all roots comes to, with the roots not looked at yet and the number
of rounds so far. -/
inductive Comes (graph : DependencyGraph) : Nat → List String → Search → Prop where
  | start : Comes graph 0 (Entries.keys graph) (.start graph)
  | pass {rounds : Nat} {root : String} {roots : List String} {search : Search}
      (h : Comes graph rounds (root :: roots) search) (hstack : search.stack = [])
      (hvisited : search.colour root ≠ .unvisited) : Comes graph rounds roots search
  | enter {rounds : Nat} {root : String} {roots : List String} {search : Search}
      (h : Comes graph rounds (root :: roots) search) (hstack : search.stack = [])
      (hroot : search.colour root = .unvisited) :
      Comes graph rounds roots (search.enter graph root)
  | round {rounds : Nat} {roots : List String} {search next : Search}
      (h : Comes graph rounds roots search) (hstack : search.stack ≠ [])
      (hnext : search.advance graph = .ok next) : Comes graph (rounds + 1) roots next

/-! ### Finished steps -/

/-- What a finished step lists is finished. -/
def Settled (graph : DependencyGraph) (search : Search) : Prop :=
  ∀ id ∈ Entries.keys graph, search.colour id = .finished →
    ∀ dependency, graph.Lists id dependency → search.colour dependency = .finished

theorem settled_start (graph : DependencyGraph) : Settled graph (start graph) := by
  intro id hid hfinished
  rw [colour_start, if_pos hid] at hfinished
  cases hfinished

theorem Settled.enter {stack : List (String × List String)} {id : String}
    (h : Settled graph search) (hcolour : search.colour id = .unvisited) :
    Settled graph ({ search with stack }.enter graph id) := by
  -- A step that was not visited is neither finished nor listed by one that is.
  intro other hother hfinished dependency hlists
  rw [Search.enter, colour_put] at hfinished ⊢
  split at hfinished
  · cases hfinished
  · have hdependency : search.colour dependency = .finished := h other hother hfinished dependency hlists
    rw [if_neg (by rintro rfl; simp [hcolour] at hdependency)]
    exact hdependency

theorem Settled.leave {id : String} {rest : List String} {outer : List (String × List String)}
    (h : Settled graph search) (hcoherent : Coherent graph search)
    (hstack : search.stack = (id, rest) :: outer)
    (hrest : ∀ dependency ∈ rest, search.colour dependency = .finished) :
    Settled graph
      { colours := Entries.put search.colours id .finished
        stack := outer
        path := search.path.dropLast } := by
  obtain ⟨-, -, -, hseen, -⟩ := hstack ▸ hcoherent.framed
  intro other hother hfinished dependency hlists
  rw [colour_put] at hfinished ⊢
  split
  · rfl
  · split at hfinished
    · next heq =>
      subst heq
      rcases hseen dependency hlists with hlater | hinner | hdone
      · exact hrest dependency hlater
      · cases hinner
      · exact hdone
    · exact h other hother hfinished dependency hlists

theorem Settled.advance (h : Settled graph search) (hcoherent : Coherent graph search)
    (hstack : search.stack ≠ []) (hnext : search.advance graph = .ok next) : Settled graph next := by
  obtain ⟨⟨id, dependencies⟩, outer, hframes⟩ := List.exists_cons_of_ne_nil hstack
  rcases advance_eq_ok hframes hnext with ⟨other, rest, hscan, rfl⟩ | ⟨hscan, rfl⟩
  · exact h.enter (scan_eq_descend hscan).1
  · exact h.leave hcoherent hframes (scan_eq_exhausted hscan)

/-! ### What holds at every state -/

/-- The rounds so far and those left at most add up to two for each step, or less. -/
theorem Comes.invariant (hclosed : graph.Closed) (h : Comes graph rounds roots search) :
    Coherent graph search ∧ Settled graph search ∧
      rounds + search.roundsLeft ≤ 2 * graph.length := by
  induction h with
  | start =>
    have hbound := (coherent_start graph).unvisited_le
    have hempty : (Search.start graph).stack.length = 0 := rfl
    refine ⟨coherent_start graph, settled_start graph, ?_⟩
    unfold roundsLeft
    omega
  | pass _ _ _ ih => exact ih
  | @enter rounds root roots search _ hstack hroot ih =>
    obtain ⟨hcoherent, hsettled, hrounds⟩ := ih
    have hvisit := unvisited_enter graph hroot
    have hlength : (search.enter graph root).stack.length = 1 := by simp [Search.enter, hstack]
    refine ⟨(hcoherent.enterRoot hstack hroot).1, hsettled.enter hroot, ?_⟩
    simp only [roundsLeft] at hrounds ⊢
    omega
  | @round rounds roots search next _ hstack hnext ih =>
    obtain ⟨hcoherent, hsettled, hrounds⟩ := ih
    obtain ⟨⟨id, dependencies⟩, outer, hframes⟩ := List.exists_cons_of_ne_nil hstack
    have hleft := roundsLeft_advance hcoherent hframes hnext
    refine ⟨hcoherent.advance hclosed hframes hnext, hsettled.advance hcoherent hstack hnext, ?_⟩
    omega

/-! ### What a round does -/

/-- A round changes the colour of one step alone. -/
structure Recolours (search next : Search) (id : String) (before after : Colour) : Prop where
  before : search.colour id = before
  after : next.colour id = after
  others : ∀ other, other ≠ id → next.colour other = search.colour other

/-- A step is entered that was not visited before. -/
def Pushes (search next : Search) : Prop :=
  ∃ id, search.Recolours next id .unvisited .onPath ∧ next.path = search.path ++ [id]

/-- The innermost step is finished. -/
def Finishes (search next : Search) : Prop :=
  ∃ id, search.Recolours next id .onPath .finished ∧ search.path = next.path ++ [id]

theorem Coherent.pushes_or_finishes (h : Coherent graph search) (hstack : search.stack ≠ [])
    (hnext : search.advance graph = .ok next) : search.Pushes next ∨ search.Finishes next := by
  obtain ⟨⟨id, dependencies⟩, outer, hframes⟩ := List.exists_cons_of_ne_nil hstack
  rcases advance_eq_ok hframes hnext with ⟨other, rest, hscan, rfl⟩ | ⟨-, rfl⟩
  · refine Or.inl ⟨other, ⟨(scan_eq_descend hscan).1, ?_, fun third hthird => ?_⟩, rfl⟩
    · rw [Search.enter, colour_put, if_pos rfl]
    · rw [Search.enter, colour_put, if_neg hthird.symm]
      rfl
  · refine Or.inr ⟨id, ⟨?_, ?_, fun third hthird => ?_⟩, ?_⟩
    · exact (h.onPath id).mpr (by simp [hframes])
    · rw [colour_put, if_pos rfl]
    · rw [colour_put, if_neg hthird.symm]
    · have hlast := h.getLast?_path hframes
      exact (List.dropLast_append_getLast? id hlast).symm

/-- A round that gives up cuts the path at a step that is on it. -/
theorem Coherent.exists_cut_of_advance_error (h : Coherent graph search) {error : DependencyError}
    (herror : search.advance graph = .error error) :
    ∃ before id after, search.path = before ++ id :: after ∧ error = .cycle (id :: after ++ [id]) := by
  unfold Search.advance at herror
  split at herror
  · cases herror
  · split at herror
    · next id _ =>
      rename_i hscan
      cases herror
      have hid : id ∈ search.path := by
        rw [h.path, List.mem_reverse]
        exact (h.onPath id).mp (scan_eq_cycleThrough hscan).2
      obtain ⟨before, after, hpath, hcycle⟩ := exists_cycleFrom_eq hid
      exact ⟨before, id, after, hpath, by rw [hcycle]⟩
    · cases herror
    · cases herror

/-! ### The search goes through its states -/

theorem Comes.explore {limit : Nat} {result : Search} (h : Comes graph rounds roots search)
    (hresult : Search.explore graph limit search = .ok result) :
    ∃ later, Comes graph later roots result := by
  induction limit generalizing rounds search with
  | zero =>
    obtain rfl := Except.ok.inj hresult
    exact ⟨rounds, h⟩
  | succ limit ih =>
    unfold Search.explore at hresult
    split at hresult
    · obtain rfl := Except.ok.inj hresult
      exact ⟨rounds, h⟩
    · next hstack =>
      cases hnext : search.advance graph with
      | error error => simp [hnext, Except.bind] at hresult
      | ok next =>
        simp only [hnext, Except.bind] at hresult
        exact ih (h.round (by simpa using hstack) hnext) hresult

theorem Comes.explore_error {limit : Nat} {error : DependencyError}
    (h : Comes graph rounds roots search)
    (hresult : Search.explore graph limit search = .error error) :
    ∃ later reached, Comes graph later roots reached ∧ reached.stack ≠ [] ∧
      reached.advance graph = .error error := by
  induction limit generalizing rounds search with
  | zero => cases hresult
  | succ limit ih =>
    unfold Search.explore at hresult
    split at hresult
    · cases hresult
    · next hstack =>
      have hframes : search.stack ≠ [] := by simpa using hstack
      cases hnext : search.advance graph with
      | error found =>
        simp only [hnext, Except.bind, Except.error.injEq] at hresult
        exact ⟨rounds, search, h, hframes, hresult ▸ hnext⟩
      | ok next =>
        simp only [hnext, Except.bind] at hresult
        exact ih (h.round hframes hnext) hresult

/-- A root that was entered is searched to the end: the rounds allowed suffice. -/
theorem Comes.exploreRoot (hclosed : graph.Closed) {root : String} {result : Search}
    (h : Comes graph rounds (root :: roots) search) (hstack : search.stack = [])
    (hroot : search.colour root = .unvisited)
    (hresult : Search.explore graph (2 * graph.length) (search.enter graph root) = .ok result) :
    ∃ later, Comes graph later roots result ∧ result.stack = [] := by
  obtain ⟨hcoherent, -, -⟩ := h.invariant hclosed
  obtain ⟨hentered, hrounds⟩ := hcoherent.enterRoot hstack hroot
  obtain ⟨later, hlater⟩ := (h.enter hstack hroot).explore hresult
  exact ⟨later, hlater, (hentered.explore hclosed hrounds hresult).2.1⟩

theorem Comes.exploreAll (hclosed : graph.Closed) {result : Search}
    (h : Comes graph rounds roots search) (hstack : search.stack = [])
    (hresult : Search.exploreAll graph search roots = .ok result) :
    ∃ later, Comes graph later [] result ∧ result.stack = [] := by
  induction roots generalizing rounds search with
  | nil =>
    obtain rfl := Except.ok.inj hresult
    exact ⟨rounds, h, hstack⟩
  | cons root roots ih =>
    unfold Search.exploreAll at hresult
    split at hresult
    · next hroot =>
      cases hexplored : Search.explore graph (2 * graph.length) (search.enter graph root) with
      | error error => simp [hexplored, Except.bind] at hresult
      | ok explored =>
        simp only [hexplored, Except.bind] at hresult
        obtain ⟨later, hlater, hempty⟩ := h.exploreRoot hclosed hstack hroot hexplored
        exact ih hlater hempty hresult
    · next hroot => exact ih (h.pass hstack hroot) hstack hresult

theorem Comes.exploreAll_error (hclosed : graph.Closed) {error : DependencyError}
    (h : Comes graph rounds roots search) (hstack : search.stack = [])
    (hresult : Search.exploreAll graph search roots = .error error) :
    ∃ later left reached, Comes graph later left reached ∧ reached.stack ≠ [] ∧
      reached.advance graph = .error error := by
  induction roots generalizing rounds search with
  | nil => cases hresult
  | cons root roots ih =>
    unfold Search.exploreAll at hresult
    split at hresult
    · next hroot =>
      cases hexplored : Search.explore graph (2 * graph.length) (search.enter graph root) with
      | error found =>
        simp only [hexplored, Except.bind, Except.error.injEq] at hresult
        obtain ⟨later, reached, hreached⟩ := (h.enter hstack hroot).explore_error hexplored
        exact ⟨later, roots, reached, hresult ▸ hreached⟩
      | ok explored =>
        simp only [hexplored, Except.bind] at hresult
        obtain ⟨later, hlater, hempty⟩ := h.exploreRoot hclosed hstack hroot hexplored
        exact ih hlater hempty hresult
    · next hroot => exact ih (h.pass hstack hroot) hstack hresult

/-! ### Searches over steps -/

/-- How colours, stack and path of a search over steps hang together. -/
structure InOrder (steps : List Step) (search : Search) : Prop where
  path : search.path = (search.stack.map (·.1)).reverse
  nodup : search.path.Nodup
  linked : search.path.IsChain (DependsOn steps)
  onPath : ∀ id, search.colour id = .onPath ↔ id ∈ search.path
  finished : ∀ id ∈ steps.map (·.id), search.colour id = .finished →
    ∀ dependency, DependsOn steps id dependency → search.colour dependency = .finished

theorem Coherent.inOrder {steps : List Step} (hids : (steps.map (·.id)).Nodup)
    (h : Coherent (ofSteps steps) search) (hsettled : Settled (ofSteps steps) search) :
    search.InOrder steps where
  path := h.path
  nodup := by
    rw [h.path, List.nodup_reverse]
    exact h.nodup
  linked := by
    rw [h.path, ← lists_ofSteps hids]
    exact h.framed.isChain
  onPath id := by
    rw [h.onPath, h.path, List.mem_reverse]
  finished := by
    rw [← lists_ofSteps hids, ← keys_ofSteps]
    exact hsettled

end Search

theorem closed_ofSteps {steps : List Step} (hids : (steps.map (·.id)).Nodup)
    (hdeclared : ∀ step ∈ steps, ∀ dependency ∈ step.dependencies, dependency ∈ steps.map (·.id)) :
    (ofSteps steps).Closed := by
  intro id hid dependency hlists
  obtain ⟨step, hstep, rfl⟩ := mem_keys_ofSteps_iff.mp hid
  rw [keys_ofSteps]
  exact hdeclared step hstep dependency ((lists_ofSteps_iff hids hstep).mp hlists)

open Search in
/-- **The search is in order at the start of each round, and two rounds for each step are enough.** -/
theorem search_in_order_each_round {steps : List Step} (hids : (steps.map (·.id)).Nodup)
    (hdeclared : ∀ step ∈ steps, ∀ dependency ∈ step.dependencies, dependency ∈ steps.map (·.id)) :
    let graph := ofSteps steps
    (∀ rounds roots search, Comes graph rounds roots search → search.stack ≠ [] →
      search.InOrder steps ∧ rounds + 1 ≤ 2 * steps.length ∧
        (∀ next, search.advance graph = .ok next → search.Pushes next ∨ search.Finishes next) ∧
        ∀ error, search.advance graph = .error error →
          ∃ before id after, search.path = before ++ id :: after ∧
            error = .cycle (id :: after ++ [id])) ∧
      (∀ result, exploreAll graph (.start graph) (Entries.keys graph) = .ok result →
        ∃ rounds, Comes graph rounds [] result ∧ result.stack = [] ∧ rounds ≤ 2 * steps.length) ∧
      ∀ error, exploreAll graph (.start graph) (Entries.keys graph) = .error error →
        ∃ rounds roots reached, Comes graph rounds roots reached ∧ reached.stack ≠ [] ∧
          reached.advance graph = .error error := by
  intro graph
  have hclosed : graph.Closed := closed_ofSteps hids hdeclared
  have hlength : graph.length = steps.length := List.length_map _
  refine ⟨fun rounds roots search hcomes hstack => ?_, fun result hresult => ?_, fun error herror => ?_⟩
  · obtain ⟨hcoherent, hsettled, hrounds⟩ := hcomes.invariant hclosed
    have hframes := List.length_pos_iff.mpr hstack
    refine ⟨hcoherent.inOrder hids hsettled, ?_, fun next => hcoherent.pushes_or_finishes hstack,
      fun error => hcoherent.exists_cut_of_advance_error⟩
    unfold roundsLeft at hrounds
    omega
  · obtain ⟨rounds, hcomes, hempty⟩ := Comes.start.exploreAll hclosed rfl hresult
    obtain ⟨-, -, hrounds⟩ := hcomes.invariant hclosed
    exact ⟨rounds, hcomes, hempty, by omega⟩
  · exact Comes.start.exploreAll_error hclosed rfl herror

end DependencyGraph

open DependencyGraph Search in
/-- The search gives up after some rounds, in order to the last. -/
theorem Sample.lasso_searched_in_order :
    (lasso.map (·.id)).Nodup ∧
      (∀ step ∈ lasso, ∀ dependency ∈ step.dependencies, dependency ∈ lasso.map (·.id)) ∧
      ∃ rounds roots reached, Comes (ofSteps lasso) rounds roots reached ∧
        reached.InOrder lasso ∧ rounds + 1 ≤ 10 ∧
        reached.advance (ofSteps lasso) = .error (.cycle ["b", "c", "d", "b"]) ∧
        ∃ before after, reached.path = before ++ "b" :: after := by
  have hids : (lasso.map (·.id)).Nodup := by decide
  have hdeclared : ∀ step ∈ lasso, ∀ dependency ∈ step.dependencies,
      dependency ∈ lasso.map (·.id) := by decide
  have herror : exploreAll (ofSteps lasso) (.start (ofSteps lasso)) (Entries.keys (ofSteps lasso))
      = .error (.cycle ["b", "c", "d", "b"]) := rfl
  obtain ⟨hrounds, -, hgivesUp⟩ := search_in_order_each_round hids hdeclared
  obtain ⟨rounds, roots, reached, hcomes, hstack, hadvance⟩ := hgivesUp _ herror
  obtain ⟨horder, hbound, -, hcut⟩ := hrounds rounds roots reached hcomes hstack
  obtain ⟨before, id, after, hpath, hcycle⟩ := hcut _ hadvance
  obtain rfl : "b" = id := by
    rw [DependencyError.cycle.injEq, List.cons_append, List.cons.injEq] at hcycle
    exact hcycle.1
  exact ⟨hids, hdeclared, rounds, roots, reached, hcomes, horder, hbound, hadvance, before, after,
    hpath⟩

end Runbook
