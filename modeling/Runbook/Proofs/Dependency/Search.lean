import Runbook.Proofs.Dependency.Grounded

/-!
# The depth-first search finds every cycle

`Search.Coherent` says how colours, stack and path of a search under way hang together: the steps on
the path are those on the stack, each frame is entered from the one below it, and whatever a frame has
looked at already is finished. Finished steps are grounded. One round keeps all of this, so a search
that runs to its end has grounded every step, and one that gives up has closed a chain of dependencies.
-/

namespace Runbook.DependencyGraph

variable {graph : DependencyGraph}

namespace Search

variable {search : Search}

/-! ### Colours -/

theorem colour_put (search : Search) (id other : String) (colour : Colour)
    (stack : List (String × List String)) (path : List String) :
    Search.colour { colours := Entries.put search.colours id colour, stack, path } other
      = if id = other then colour else search.colour other := by
  unfold Search.colour
  split
  · next heq => rw [heq, Entries.get?_put_self, Option.getD_some]
  · next hne => rw [Entries.get?_put_of_ne _ _ hne]

theorem get?_colours_of_colour_ne {id : String} (h : search.colour id ≠ .finished) :
    Entries.get? search.colours id = some (search.colour id) := by
  unfold colour at h ⊢
  cases hget : Entries.get? search.colours id with
  | none => simp [hget] at h
  | some _ => rfl

theorem scan_eq_cycleThrough {dependencies : List String} {id : String}
    (h : search.scan dependencies = .cycleThrough id) :
    id ∈ dependencies ∧ search.colour id = .onPath := by
  induction dependencies with
  | nil => cases h
  | cons first rest ih =>
    unfold scan at h
    split at h
    · next hcolour =>
      cases h
      exact ⟨List.mem_cons_self, hcolour⟩
    · cases h
    · exact ⟨List.mem_cons_of_mem _ (ih h).1, (ih h).2⟩

theorem scan_eq_descend {dependencies rest : List String} {id : String}
    (h : search.scan dependencies = .descend id rest) :
    search.colour id = .unvisited ∧
      ∃ seen, dependencies = seen ++ id :: rest ∧ ∀ other ∈ seen, search.colour other = .finished := by
  induction dependencies with
  | nil => cases h
  | cons first others ih =>
    unfold scan at h
    split at h
    · cases h
    · next hcolour =>
      cases h
      exact ⟨hcolour, [], rfl, by simp⟩
    · next hcolour =>
      obtain ⟨hid, seen, rfl, hseen⟩ := ih h
      exact ⟨hid, first :: seen, rfl, by simpa [hcolour] using hseen⟩

theorem scan_eq_exhausted {dependencies : List String} (h : search.scan dependencies = .exhausted) :
    ∀ id ∈ dependencies, search.colour id = .finished := by
  induction dependencies with
  | nil => simp
  | cons first rest ih =>
    unfold scan at h
    split at h
    · cases h
    · cases h
    · next hcolour => simpa [hcolour] using ih h

/-! ### The invariant -/

/-- Frames from the innermost outwards. Each lists the step of the frame inside it, and has finished
what it neither has still to look at nor is inside of. -/
def Framed (graph : DependencyGraph) (finished : String → Prop) :
    Option String → List (String × List String) → Prop
  | _, [] => True
  | inner, (id, rest) :: outer =>
    id ∈ Entries.keys graph ∧ (∀ dependency ∈ rest, graph.Lists id dependency) ∧
      (∀ dependency ∈ inner, graph.Lists id dependency) ∧
      (∀ dependency, graph.Lists id dependency →
        dependency ∈ rest ∨ dependency ∈ inner ∨ finished dependency) ∧
      Framed graph finished (some id) outer

structure Coherent (graph : DependencyGraph) (search : Search) : Prop where
  keys : Entries.keys search.colours = Entries.keys graph
  path : search.path = (search.stack.map (·.1)).reverse
  nodup : (search.stack.map (·.1)).Nodup
  onPath : ∀ id, search.colour id = .onPath ↔ id ∈ search.stack.map (·.1)
  framed : Framed graph (fun id => search.colour id = .finished) none search.stack
  grounded : ∀ id ∈ Entries.keys graph, search.colour id = .finished → graph.Grounded id

theorem Framed.mono {finished finished' : String → Prop}
    (hsub : ∀ id, finished id → finished' id) {inner : Option String}
    {frames : List (String × List String)} (h : Framed graph finished inner frames) :
    Framed graph finished' inner frames := by
  induction frames generalizing inner with
  | nil => trivial
  | cons frame outer ih =>
    obtain ⟨hid, hrest, hinner, hseen, houter⟩ := h
    refine ⟨hid, hrest, hinner, fun dependency hlists => ?_, ih houter⟩
    exact (hseen dependency hlists).imp_right (Or.imp_right (hsub dependency))

/-- The step of each frame leads to the step of the innermost one. -/
theorem Framed.leads_to_innermost {finished : String → Prop} {inner : Option String} {id : String}
    {rest : List String} {outer : List (String × List String)}
    (h : Framed graph finished inner ((id, rest) :: outer)) :
    ∀ other ∈ ((id, rest) :: outer).map (·.1), Relation.ReflTransGen graph.Lists other id := by
  induction outer generalizing inner id rest with
  | nil => simp [Relation.ReflTransGen.refl]
  | cons frame outer ih =>
    obtain ⟨_, _, _, _, houter⟩ := h
    have hstep : graph.Lists frame.1 id := houter.2.2.1 id rfl
    intro other hother
    rcases List.mem_cons.mp hother with rfl | hother
    · exact .refl
    · exact (ih houter other hother).tail hstep

theorem colour_start (graph : DependencyGraph) (id : String) :
    (start graph).colour id = if id ∈ Entries.keys graph then .unvisited else .finished := by
  simp only [colour, start, Entries.get?_mapValues, ← Entries.get?_isSome_iff]
  cases Entries.get? graph id <;> rfl

theorem coherent_start (graph : DependencyGraph) : Coherent graph (start graph) where
  keys := Entries.keys_mapValues (fun _ : List String => Colour.unvisited) graph
  path := rfl
  nodup := List.nodup_nil
  onPath id := by
    rw [colour_start]
    split <;> simp [start]
  framed := trivial
  grounded id hid hfinished := by
    rw [colour_start, if_pos hid] at hfinished
    cases hfinished

/-! ### One round keeps it -/

theorem Coherent.mem_keys_of_colour_ne (h : Coherent graph search) {id : String}
    (hcolour : search.colour id ≠ .finished) : id ∈ Entries.keys graph := by
  rw [← h.keys, ← Entries.get?_isSome_iff, get?_colours_of_colour_ne hcolour]
  rfl

theorem Coherent.keys_put (h : Coherent graph search) {id : String} (hid : id ∈ Entries.keys graph)
    (colour : Colour) :
    Entries.keys (Entries.put search.colours id colour) = Entries.keys graph := by
  rw [Entries.keys_put, if_pos (h.keys ▸ hid), h.keys]

/-- Entering a step that was not visited, from frames that list it and from no others. -/
theorem Coherent.enter {stack : List (String × List String)} {id : String}
    (h : Coherent graph search) (hcolour : search.colour id = .unvisited)
    (hids : stack.map (·.1) = search.stack.map (·.1))
    (hframed : Framed graph (fun other => search.colour other = .finished) (some id) stack) :
    Coherent graph ({ search with stack }.enter graph id) := by
  have hid : id ∈ Entries.keys graph := h.mem_keys_of_colour_ne (by simp [hcolour])
  have hfresh : id ∉ search.stack.map (·.1) := by
    rw [← h.onPath, hcolour]
    decide
  refine
    { keys := h.keys_put hid .onPath
      path := by simp [Search.enter, h.path, hids]
      nodup := by
        rw [Search.enter, List.map_cons, List.nodup_cons, hids]
        exact ⟨hfresh, h.nodup⟩
      onPath := fun other => ?_
      framed := ?_
      grounded := fun other hother hfinished => ?_ }
  · rw [Search.enter, colour_put, List.map_cons, List.mem_cons, hids]
    split
    · next heq => simp [heq]
    · next hne => simpa [colour, Ne.symm hne] using h.onPath other
  · refine ⟨hid, fun _ hlists => hlists, by simp, fun _ hlists => Or.inl hlists, hframed.mono ?_⟩
    intro other hfinished
    rw [Search.enter, colour_put, if_neg (by rintro rfl; simp [hcolour] at hfinished)]
    exact hfinished
  · rw [Search.enter, colour_put] at hfinished
    split at hfinished
    · cases hfinished
    · exact h.grounded other hother hfinished

/-- Leaving a step all of whose dependencies are finished. -/
theorem Coherent.leave {id : String} {rest : List String} {outer : List (String × List String)}
    (hclosed : graph.Closed) (h : Coherent graph search) (hstack : search.stack = (id, rest) :: outer)
    (hrest : ∀ dependency ∈ rest, search.colour dependency = .finished) :
    Coherent graph
      { colours := Entries.put search.colours id .finished
        stack := outer
        path := search.path.dropLast } := by
  obtain ⟨hid, _, _, hseen, houter⟩ := hstack ▸ h.framed
  have hnodup : id ∉ outer.map (·.1) ∧ (outer.map (·.1)).Nodup := by
    simpa [hstack] using h.nodup
  have hgrounded : graph.Grounded id := by
    refine .intro hid fun dependency hlists => ?_
    refine h.grounded dependency (hclosed id hid dependency hlists) ?_
    rcases hseen dependency hlists with hlater | hinner | hfinished
    · exact hrest dependency hlater
    · cases hinner
    · exact hfinished
  refine
    { keys := h.keys_put hid .finished
      path := by simp [h.path, hstack]
      nodup := hnodup.2
      onPath := fun other => ?_
      framed := ?_
      grounded := fun other hother hfinished => ?_ }
  · rw [colour_put]
    split
    · next heq => simpa [← heq] using hnodup.1
    · next hne => simpa [hstack, Ne.symm hne] using h.onPath other
  · -- The frame below was inside of `id` and is now done with it.
    cases outer with
    | nil => trivial
    | cons frame outer =>
      obtain ⟨hframe, hlists, _, hframeSeen, hframeOuter⟩ := houter
      refine ⟨hframe, hlists, by simp, fun dependency hdependency => ?_, hframeOuter.mono ?_⟩
      · rcases hframeSeen dependency hdependency with hlater | hinner | hfinished
        · exact Or.inl hlater
        · exact Or.inr (Or.inr (by simp [colour_put, Option.some.inj hinner]))
        · exact Or.inr (Or.inr (by simp [colour_put, hfinished]))
      · intro other hfinished
        simp [colour_put, hfinished]
  · rw [colour_put] at hfinished
    split at hfinished
    · next heq => exact heq ▸ hgrounded
    · exact h.grounded other hother hfinished

/-- What a round on a stack that is not empty can do. -/
theorem advance_eq_ok {next : Search} {id : String} {dependencies : List String}
    {outer : List (String × List String)} (hstack : search.stack = (id, dependencies) :: outer)
    (hnext : search.advance graph = .ok next) :
    (∃ other rest, search.scan dependencies = .descend other rest ∧
        next = { search with stack := (id, rest) :: outer }.enter graph other) ∨
      (search.scan dependencies = .exhausted ∧
        next =
          { colours := Entries.put search.colours id .finished
            stack := outer
            path := search.path.dropLast }) := by
  simp only [advance, hstack] at hnext
  split at hnext
  · cases hnext
  · next other rest hscan => exact Or.inl ⟨other, rest, hscan, (Except.ok.inj hnext).symm⟩
  · next hscan => exact Or.inr ⟨hscan, (Except.ok.inj hnext).symm⟩

theorem Coherent.advance (hclosed : graph.Closed) (h : Coherent graph search) {next : Search}
    {id : String} {dependencies : List String} {outer : List (String × List String)}
    (hstack : search.stack = (id, dependencies) :: outer)
    (hnext : search.advance graph = .ok next) : Coherent graph next := by
  rcases advance_eq_ok hstack hnext with ⟨other, rest, hscan, rfl⟩ | ⟨hscan, rfl⟩
  · obtain ⟨hcolour, seen, rfl, hseen⟩ := scan_eq_descend hscan
    obtain ⟨hid, hlater, _, hframe, houter⟩ := hstack ▸ h.framed
    refine h.enter hcolour (by simp [hstack]) ⟨hid, ?_, ?_, ?_, houter⟩
    · exact fun dependency hdependency => hlater dependency (by simp [hdependency])
    · rintro _ ⟨⟩
      exact hlater other (by simp)
    · intro dependency hlists
      rcases hframe dependency hlists with hmem | hinner | hfinished
      · rcases List.mem_append.mp hmem with hmem | hmem
        · exact Or.inr (Or.inr (hseen dependency hmem))
        · rcases List.mem_cons.mp hmem with rfl | hmem
          · exact Or.inr (Or.inl rfl)
          · exact Or.inl hmem
      · cases hinner
      · exact Or.inr (Or.inr hfinished)
  · exact h.leave hclosed hstack (scan_eq_exhausted hscan)

/-! ### Rounds -/

/-- How many declared steps were not visited yet. -/
def unvisited (search : Search) : Nat :=
  search.colours.countP fun entry => entry.2 == .unvisited

/-- How many rounds are left at most: two for each step that was not visited, and one for each step
under way. -/
def roundsLeft (search : Search) : Nat :=
  2 * search.unvisited + search.stack.length

theorem unvisited_enter (graph : DependencyGraph) {id : String} (hcolour : search.colour id = .unvisited) :
    (search.enter graph id).unvisited + 1 = search.unvisited := by
  have hget : Entries.get? search.colours id = some .unvisited := by
    rw [get?_colours_of_colour_ne (by simp [hcolour]), hcolour]
  simpa [unvisited, Search.enter] using Entries.countP_put (· == Colour.unvisited) hget .onPath

theorem roundsLeft_advance (h : Coherent graph search) {next : Search} {id : String}
    {dependencies : List String} {outer : List (String × List String)}
    (hstack : search.stack = (id, dependencies) :: outer)
    (hnext : search.advance graph = .ok next) : next.roundsLeft + 1 = search.roundsLeft := by
  rcases advance_eq_ok hstack hnext with ⟨other, rest, hscan, rfl⟩ | ⟨_, rfl⟩
  · have hcolour : search.colour other = .unvisited := (scan_eq_descend hscan).1
    have hvisit : unvisited ({ search with stack := (id, rest) :: outer }.enter graph other) + 1
        = search.unvisited := unvisited_enter graph hcolour
    simp only [roundsLeft, hstack, Search.enter, List.length_cons] at hvisit ⊢
    omega
  · have hcolour : search.colour id = .onPath := (h.onPath id).mpr (by simp [hstack])
    have hget : Entries.get? search.colours id = some .onPath := by
      rw [get?_colours_of_colour_ne (by simp [hcolour]), hcolour]
    have hsame := Entries.countP_put (· == Colour.unvisited) hget .finished
    simp only [roundsLeft, unvisited, hstack, List.length_cons]
    simp at hsame
    omega

/-- A step that was visited stays so. -/
theorem visited_advance {next : Search} {id : String} {dependencies : List String}
    {outer : List (String × List String)} (hstack : search.stack = (id, dependencies) :: outer)
    (hnext : search.advance graph = .ok next) {other : String}
    (hvisited : search.colour other ≠ .unvisited) : next.colour other ≠ .unvisited := by
  rcases advance_eq_ok hstack hnext with ⟨_, _, _, rfl⟩ | ⟨_, rfl⟩
  · rw [Search.enter, colour_put]
    split
    · decide
    · exact hvisited
  · rw [colour_put]
    split
    · decide
    · exact hvisited

/-! ### Whole searches -/

theorem Coherent.explore (hclosed : graph.Closed) {rounds : Nat} {result : Search}
    (h : Coherent graph search) (hrounds : search.roundsLeft ≤ rounds)
    (hresult : Search.explore graph rounds search = .ok result) :
    Coherent graph result ∧ result.stack = [] ∧
      ∀ id, search.colour id ≠ .unvisited → result.colour id ≠ .unvisited := by
  induction rounds generalizing search with
  | zero =>
    -- The rounds suffice: with none left the stack is empty.
    obtain rfl := Except.ok.inj hresult
    have hempty : search.stack.length = 0 := by
      unfold roundsLeft at hrounds
      omega
    exact ⟨h, List.length_eq_zero_iff.mp hempty, fun _ hvisited => hvisited⟩
  | succ rounds ih =>
    unfold Search.explore at hresult
    cases hstack : search.stack with
    | nil =>
      obtain rfl : search = result := by simpa [hstack] using hresult
      exact ⟨h, hstack, fun _ hvisited => hvisited⟩
    | cons frame outer =>
      simp only [hstack, List.isEmpty_cons, Bool.false_eq_true, if_false] at hresult
      cases hnext : search.advance graph with
      | error error => simp [hnext, Except.bind] at hresult
      | ok next =>
        simp only [hnext, Except.bind] at hresult
        have hleft := roundsLeft_advance h hstack hnext
        obtain ⟨hcoherent, hempty, hvisited⟩ :=
          ih (h.advance hclosed hstack hnext) (by omega) hresult
        exact ⟨hcoherent, hempty,
          fun id hid => hvisited id (visited_advance hstack hnext hid)⟩

/-- A search that gives up does so in a round that starts from a coherent state. -/
theorem Coherent.explore_error (hclosed : graph.Closed) {rounds : Nat} {error : DependencyError}
    (h : Coherent graph search) (hresult : Search.explore graph rounds search = .error error) :
    ∃ reached, Coherent graph reached ∧ reached.advance graph = .error error := by
  induction rounds generalizing search with
  | zero => cases hresult
  | succ rounds ih =>
    unfold Search.explore at hresult
    cases hstack : search.stack with
    | nil => simp [hstack] at hresult
    | cons frame outer =>
      simp only [hstack, List.isEmpty_cons, Bool.false_eq_true, if_false] at hresult
      cases hnext : search.advance graph with
      | error found =>
        simp only [hnext, Except.bind, Except.error.injEq] at hresult
        exact ⟨search, h, hresult ▸ hnext⟩
      | ok next =>
        simp only [hnext, Except.bind] at hresult
        exact ih (h.advance hclosed hstack hnext) hresult

theorem Coherent.unvisited_le (h : Coherent graph search) : search.unvisited ≤ graph.length := by
  have hlength : search.colours.length = graph.length := by
    simpa [Entries.keys] using congrArg List.length h.keys
  exact hlength ▸ List.countP_le_length

/-- Entering a root leaves rounds enough to finish it. -/
theorem Coherent.enterRoot (h : Coherent graph search) (hstack : search.stack = []) {root : String}
    (hroot : search.colour root = .unvisited) :
    Coherent graph (search.enter graph root) ∧
      (search.enter graph root).roundsLeft ≤ 2 * graph.length := by
  refine ⟨h.enter hroot rfl (by rw [hstack]; trivial), ?_⟩
  have hvisit := unvisited_enter graph hroot
  have hbound := h.unvisited_le
  have hlength : (search.enter graph root).stack.length = 1 := by simp [Search.enter, hstack]
  unfold roundsLeft
  omega

theorem Coherent.exploreAll (hclosed : graph.Closed) {roots : List String} {result : Search}
    (h : Coherent graph search) (hstack : search.stack = [])
    (hresult : Search.exploreAll graph search roots = .ok result) :
    Coherent graph result ∧ result.stack = [] ∧
      (∀ id, search.colour id ≠ .unvisited → result.colour id ≠ .unvisited) ∧
      ∀ root ∈ roots, result.colour root ≠ .unvisited := by
  induction roots generalizing search with
  | nil =>
    obtain rfl := Except.ok.inj hresult
    exact ⟨h, hstack, fun _ hvisited => hvisited, by simp⟩
  | cons root rest ih =>
    unfold Search.exploreAll at hresult
    split at hresult
    · next hroot =>
      obtain ⟨hentered, hrounds⟩ := h.enterRoot hstack hroot
      cases hexplored : Search.explore graph (2 * graph.length) (search.enter graph root) with
      | error error => simp [hexplored, Except.bind] at hresult
      | ok explored =>
        simp only [hexplored, Except.bind] at hresult
        obtain ⟨hcoherent, hempty, hkept⟩ := hentered.explore hclosed hrounds hexplored
        obtain ⟨hlast, hlastEmpty, hlastKept, hroots⟩ := ih hcoherent hempty hresult
        have hkeptAll : ∀ id, (search.enter graph root).colour id ≠ .unvisited →
            result.colour id ≠ .unvisited := fun id hid => hlastKept id (hkept id hid)
        refine ⟨hlast, hlastEmpty, fun id hid => hkeptAll id ?_, ?_⟩
        · rw [Search.enter, colour_put]
          split
          · decide
          · exact hid
        · rw [List.forall_mem_cons]
          exact ⟨hkeptAll root (by simp [Search.enter, colour_put]), hroots⟩
    · next hroot =>
      obtain ⟨hlast, hlastEmpty, hlastKept, hroots⟩ := ih h hstack hresult
      refine ⟨hlast, hlastEmpty, hlastKept, ?_⟩
      rw [List.forall_mem_cons]
      exact ⟨hlastKept root hroot, hroots⟩

theorem Coherent.exploreAll_error (hclosed : graph.Closed) {roots : List String}
    {error : DependencyError} (h : Coherent graph search) (hstack : search.stack = [])
    (hresult : Search.exploreAll graph search roots = .error error) :
    ∃ reached, Coherent graph reached ∧ reached.advance graph = .error error := by
  induction roots generalizing search with
  | nil => cases hresult
  | cons root rest ih =>
    unfold Search.exploreAll at hresult
    split at hresult
    · next hroot =>
      obtain ⟨hentered, hrounds⟩ := h.enterRoot hstack hroot
      cases hexplored : Search.explore graph (2 * graph.length) (search.enter graph root) with
      | error found =>
        simp only [hexplored, Except.bind, Except.error.injEq] at hresult
        exact hentered.explore_error hclosed (hresult ▸ hexplored)
      | ok explored =>
        simp only [hexplored, Except.bind] at hresult
        obtain ⟨hcoherent, hempty, _⟩ := hentered.explore hclosed hrounds hexplored
        exact ih hcoherent hempty hresult
    · exact ih h hstack hresult

/-- A round gives up only at a step that leads back to itself. -/
theorem Coherent.exists_cyclic_of_advance_error (h : Coherent graph search) {error : DependencyError}
    (herror : search.advance graph = .error error) :
    ∃ id ∈ Entries.keys graph, Relation.TransGen graph.Lists id id := by
  unfold Search.advance at herror
  split at herror
  · cases herror
  · next id dependencies outer hstack =>
    split at herror
    · next other hscan =>
      obtain ⟨hmem, hcolour⟩ := scan_eq_cycleThrough hscan
      have hframed := hstack ▸ h.framed
      have hlists : graph.Lists id other := hframed.2.1 other hmem
      have hback : Relation.ReflTransGen graph.Lists other id :=
        hframed.leads_to_innermost other (hstack ▸ (h.onPath other).mp hcolour)
      exact ⟨id, hframed.1, Relation.TransGen.head' hlists hback⟩
    · cases herror
    · cases herror

end Search

/-! ### The check as a whole -/

theorem sound_of_exploreAll {result : Search} (hclosed : graph.Closed)
    (hresult : Search.exploreAll graph (.start graph) (Entries.keys graph) = .ok result) :
    graph.Sound := by
  obtain ⟨hcoherent, hempty, _, hvisited⟩ :=
    (Search.coherent_start graph).exploreAll hclosed rfl hresult
  intro id hid
  refine hcoherent.grounded id hid ?_
  have hoff : result.colour id ≠ .onPath := fun hcolour => by
    simpa [hempty] using (hcoherent.onPath id).mp hcolour
  cases hcolour : result.colour id with
  | unvisited => exact (hvisited id hid hcolour).elim
  | onPath => exact (hoff hcolour).elim
  | finished => rfl

/-- The check accepts exactly the graphs in which every step is grounded. -/
theorem check_eq_ok_iff (hkeys : (Entries.keys graph).Nodup) :
    graph.check = .ok () ↔ graph.Sound := by
  constructor
  · intro hcheck
    unfold check at hcheck
    split at hcheck
    · cases hcheck
    · next hreferences =>
      have hclosed := closed_of_firstBadReference?_eq_none hkeys hreferences
      cases hexplored : Search.exploreAll graph (.start graph) (Entries.keys graph) with
      | error error => simp [hexplored, Except.map] at hcheck
      | ok result => exact sound_of_exploreAll hclosed hexplored
  · intro hsound
    have hreferences := firstBadReference?_of_sound hkeys hsound
    have hclosed := closed_of_firstBadReference?_eq_none hkeys hreferences
    rw [check, hreferences]
    cases hexplored : Search.exploreAll graph (.start graph) (Entries.keys graph) with
    | error error =>
      obtain ⟨reached, hcoherent, herror⟩ :=
        (Search.coherent_start graph).exploreAll_error hclosed rfl hexplored
      obtain ⟨id, hid, hcycle⟩ := hcoherent.exists_cyclic_of_advance_error herror
      exact ((hsound id hid).not_cyclic hcycle).elim
    | ok result => rfl

end Runbook.DependencyGraph
