import Runbook.Json.Reader
import Runbook.Proofs.Json.Quotation

/-!
# Reading back what was written

A value without numbers that is written for sending is read back as it was, unless it is nested too deeply
or has a name twice. The reader is followed along the text of the value: from any state that expects a
value it comes to the state in which this value is complete, wherever the text stands.
-/

namespace Runbook

/-- Values without numbers, with distinct names and with at most so many containers around each other. -/
inductive Value.Simple : Nat → Value → Prop where
  | null (depth : Nat) : Simple depth .null
  | bool (depth : Nat) (b : Bool) : Simple depth (.bool b)
  | text (depth : Nat) (s : String) : Simple depth (.string s)
  | list {depth : Nat} {items : List Value} (hitems : ∀ v ∈ items, Simple depth v) :
      Simple (depth + 1) (.list items)
  | object {depth : Nat} {fields : Value.Fields} (hnames : (Entries.keys fields).Nodup)
      (hfields : ∀ field ∈ fields, Simple depth field.2) : Simple (depth + 1) (.object fields)

namespace Value

@[simp] theorem simple_string (depth : Nat) (s : String) : Simple depth (.string s) := .text depth s

@[simp] theorem simple_list_iff {depth : Nat} {items : List Value} :
    Simple (depth + 1) (.list items) ↔ ∀ v ∈ items, Simple depth v :=
  ⟨fun | .list hitems => hitems, .list⟩

@[simp] theorem simple_object_iff {depth : Nat} {fields : Fields} :
    Simple (depth + 1) (.object fields) ↔
      (Entries.keys fields).Nodup ∧ ∀ field ∈ fields, Simple depth field.2 :=
  ⟨fun | .object hnames hfields => ⟨hnames, hfields⟩, fun h => .object h.1 h.2⟩

end Value

namespace Json

/-! ### Tokens -/

theorem tokens_skip (position : Nat) (cs rest : List Char) :
    tokens position cs.length (cs ++ rest) = tokens (position + cs.length) 0 rest := by
  induction cs generalizing position with
  | nil => rfl
  | cons c cs ih =>
    simp only [List.length_cons, List.cons_append, tokens, ih]
    congr 1
    omega

/-- A token that is some characters long, and what comes after it. -/
theorem tokens_of_tokenAt {position : Nat} {c : Char} {cs rest : List Char} {token : Token}
    (hspace : isSpace c = false)
    (htoken : tokenAt position (c :: (cs ++ rest)) = (token, cs.length + 1)) :
    tokens position 0 (c :: (cs ++ rest))
      = (position, token) :: tokens (position + 1 + cs.length) 0 rest := by
  rw [tokens, hspace]
  simp [htoken, tokens_skip]

theorem tokens_quote (position : Nat) (s : String) (rest : List Char) :
    ∃ next, tokens position 0 ((quote plain s).toList ++ rest)
      = (position, .text s) :: tokens next 0 rest := by
  have htoken : tokenAt position ('"' :: (escapedChars s.toList ++ ['"'] ++ rest))
      = (.text s, (escapedChars s.toList ++ ['"']).length + 1) := by
    have hread := textFrom_escapedChars s.toList position (position + 1) rest
    simp only [tokenAt, List.append_assoc, List.singleton_append, hread, String.ofList_toList]
    simp only [List.length_append, List.length_singleton]
    congr 1
    omega
  rw [toList_quote_plain, List.cons_append]
  exact ⟨_, tokens_of_tokenAt (by decide) htoken⟩

/-! ### The machine along a value -/

namespace Machine

/-- The machine expects a value. -/
def Awaits (m : Machine) : Prop :=
  m.expect = .value ∨ m.expect = .valueOrClose

theorem step_of_awaits {m : Machine} (h : m.Awaits) (position : Nat) {token : Token}
    (hopen : token ≠ .closeList) : m.step position token = m.takeValue position token := by
  rcases h with h | h <;> unfold step <;> rw [h]
  cases token <;> first | rfl | exact absurd rfl hopen

/-- Only the containers that are open tell where a value goes. -/
theorem complete_eq_of_stack {m n : Machine} (h : m.stack = n.stack) (v : Value) :
    m.complete v = n.complete v := by
  simp only [complete, h]

/-- From wherever a value is expected, and not too deep inside, the reader completes this value. -/
def Completes (depth : Nat) (v : Value) : Prop :=
  ∀ (m : Machine) (position : Nat) (rest : List Char), m.Awaits →
    m.stack.length + depth ≤ nestingLimit →
      ∃ next, m.run (tokens position 0 ((write plain v).toList ++ rest))
        = (m.complete v).run (tokens next 0 rest)

variable {depth : Nat}

theorem run_of_step {m n : Machine} {position : Nat} {token : Token}
    (h : m.step position token = .ok n) (rest : List (Nat × Token)) :
    m.run ((position, token) :: rest) = n.run rest := by
  simp [run, h, Except.bind]

theorem completes_string (depth : Nat) (s : String) : Completes depth (.string s) := by
  intro m position rest hawaits _
  obtain ⟨next, htokens⟩ := tokens_quote position s rest
  refine ⟨next, ?_⟩
  rw [write, htokens, run_of_step (step_of_awaits hawaits position (by simp))]

/-- A value that is written as a word. -/
theorem completes_word {v : Value} {c : Char} {cs : List Char}
    (htext : (write plain v).toList = c :: cs) (hspace : isSpace c = false)
    (htoken : ∀ position rest, tokenAt position (c :: (cs ++ rest)) = (.scalar v, cs.length + 1))
    (depth : Nat) : Completes depth v := by
  intro m position rest hawaits _
  refine ⟨position + 1 + cs.length, ?_⟩
  rw [htext, List.cons_append, tokens_of_tokenAt hspace (htoken position rest),
    run_of_step (step_of_awaits hawaits position (by simp))]

theorem completes_null (depth : Nat) : Completes depth .null := by
  have htext : (write plain .null).toList = ['n', 'u', 'l', 'l'] := by simp [write]
  exact completes_word htext (by decide) (fun _ _ => by simp [tokenAt, words]; rfl) depth

theorem completes_bool (depth : Nat) (b : Bool) : Completes depth (.bool b) := by
  cases b with
  | true =>
    have htext : (write plain (.bool true)).toList = ['t', 'r', 'u', 'e'] := by simp [write]
    exact completes_word htext (by decide) (fun _ _ => by simp [tokenAt, words]; rfl) depth
  | false =>
    have htext : (write plain (.bool false)).toList = ['f', 'a', 'l', 's', 'e'] := by simp [write]
    exact completes_word htext (by decide) (fun _ _ => by simp [tokenAt, words]; rfl) depth

/-- A value is complete within these containers. -/
def closed (outer : List Frame) (v : Value) : Machine :=
  (⟨outer, .value, .null⟩ : Machine).complete v

theorem run_writeItems {vs : List Value} (hvs : ∀ v ∈ vs, Completes depth v) (items : List Value)
    {outer : List Frame} (hdepth : outer.length + 1 + depth ≤ nestingLimit) (last : Value)
    (position : Nat) (rest : List Char) :
    ∃ next, (⟨.list items :: outer, .commaOrClose, last⟩ : Machine).run
        (tokens position 0 ((writeItems plain vs).toList ++ ']' :: rest))
      = (closed outer (.list (items.reverse ++ vs))).run (tokens next 0 rest) := by
  induction vs generalizing items last position with
  | nil =>
    have hclose : (⟨.list items :: outer, .commaOrClose, last⟩ : Machine).step position .closeList
        = .ok (closed outer (.list items.reverse)) := congrArg Except.ok (complete_eq_of_stack rfl _)
    refine ⟨position + 1, ?_⟩
    rw [List.append_nil]
    exact run_of_step hclose _
  | cons v vs ih =>
    rw [List.forall_mem_cons] at hvs
    have htext : (writeItems plain (v :: vs)).toList ++ ']' :: rest
        = ',' :: ((write plain v).toList ++ ((writeItems plain vs).toList ++ ']' :: rest)) := by
      simp [writeItems, plain]
    obtain ⟨middle, hvalue⟩ := hvs.1 ⟨.list items :: outer, .value, last⟩ (position + 1)
      ((writeItems plain vs).toList ++ ']' :: rest) (.inl rfl) hdepth
    obtain ⟨next, hitems⟩ := ih hvs.2 (v :: items) v middle
    refine ⟨next, ?_⟩
    rw [htext]
    refine (run_of_step rfl _).trans (hvalue.trans (hitems.trans ?_))
    rw [List.reverse_cons, List.append_assoc, List.singleton_append]

theorem completes_list {items : List Value} (hitems : ∀ v ∈ items, Completes depth v) :
    Completes (depth + 1) (.list items) := by
  intro m position rest hawaits hdepth
  have hroom : m.isFull = false := by
    simp only [isFull, decide_eq_false_iff_not]
    omega
  have hopen : m.step position .openList
      = .ok { m with stack := .list [] :: m.stack, expect := .valueOrClose } := by
    rw [step_of_awaits hawaits position (by simp), takeValue, hroom]
    rfl
  cases items with
  | nil =>
    have htext : (write plain (.list [])).toList = ['[', ']'] := by simp [write]
    have hclose : ({ m with stack := .list [] :: m.stack, expect := .valueOrClose } : Machine).step
        (position + 1) .closeList = .ok (m.complete (.list [])) :=
      congrArg Except.ok (complete_eq_of_stack rfl _)
    refine ⟨position + 1 + 1, ?_⟩
    rw [htext]
    exact (run_of_step hopen _).trans (run_of_step hclose _)
  | cons v vs =>
    rw [List.forall_mem_cons] at hitems
    have htext : (write plain (.list (v :: vs))).toList ++ rest
        = '[' :: ((write plain v).toList ++ ((writeItems plain vs).toList ++ ']' :: rest)) := by
      simp [write]
    have hinside : (m.stack.length + 1) + depth ≤ nestingLimit := by omega
    obtain ⟨middle, hvalue⟩ := hitems.1
      { m with stack := .list [] :: m.stack, expect := .valueOrClose } (position + 1)
      ((writeItems plain vs).toList ++ ']' :: rest) (.inr rfl) hinside
    obtain ⟨next, hrest⟩ := run_writeItems hitems.2 [v] hinside v middle rest
    refine ⟨next, ?_⟩
    rw [htext]
    refine (run_of_step hopen _).trans (hvalue.trans (hrest.trans ?_))
    rw [closed, complete_eq_of_stack (n := m) rfl]
    rfl

/-- A name and its value, wherever a name is expected. -/
theorem run_field {name : String} {v : Value} (hv : Completes depth v) {m : Machine}
    {fields : Value.Fields} (hname : m.expect = .name fields ∨ m.expect = .nameOrClose fields)
    (hdepth : m.stack.length + 1 + depth ≤ nestingLimit) (position : Nat) (rest : List Char) :
    ∃ next, m.run
        (tokens position 0 ((quote plain name).toList ++ ':' :: ((write plain v).toList ++ rest)))
      = (⟨.object (Entries.put fields name v) name :: m.stack, .commaOrClose, v⟩ : Machine).run
        (tokens next 0 rest) := by
  obtain ⟨afterName, hquote⟩ := tokens_quote position name (':' :: ((write plain v).toList ++ rest))
  have htext : m.step position (.text name) = .ok { m with expect := .colon fields name } := by
    rcases hname with hname | hname <;> simp [step, hname, takeName]
  obtain ⟨next, hvalue⟩ := hv { m with stack := .object fields name :: m.stack, expect := .value }
    (afterName + 1) rest (.inl rfl) hdepth
  refine ⟨next, ?_⟩
  rw [hquote, run_of_step htext]
  exact (run_of_step rfl _).trans hvalue

theorem run_writeFields {fields : Value.Fields} (hfields : ∀ field ∈ fields, Completes depth field.2)
    (taken : Value.Fields) (hnames : (Entries.keys (taken ++ fields)).Nodup) {outer : List Frame}
    (hdepth : outer.length + 1 + depth ≤ nestingLimit) (name : String) (last : Value) (position : Nat)
    (rest : List Char) :
    ∃ next, (⟨.object taken name :: outer, .commaOrClose, last⟩ : Machine).run
        (tokens position 0 ((writeFields plain fields).toList ++ '\x7d' :: rest))
      = (closed outer (.object (taken ++ fields))).run (tokens next 0 rest) := by
  induction fields generalizing taken name last position with
  | nil =>
    have hclose : (⟨.object taken name :: outer, .commaOrClose, last⟩ : Machine).step position
        .closeObject = .ok (closed outer (.object taken)) :=
      congrArg Except.ok (complete_eq_of_stack rfl _)
    refine ⟨position + 1, ?_⟩
    rw [List.append_nil]
    exact run_of_step hclose _
  | cons field fields ih =>
    obtain ⟨key, v⟩ := field
    rw [List.forall_mem_cons] at hfields
    have htext : (writeFields plain ((key, v) :: fields)).toList ++ '\x7d' :: rest
        = ',' :: ((quote plain key).toList ++ ':' :: ((write plain v).toList
          ++ ((writeFields plain fields).toList ++ '\x7d' :: rest))) := by
      simp [writeFields, plain]
    have hfresh : key ∉ Entries.keys taken := by
      rw [Entries.keys, List.map_append, List.nodup_append] at hnames
      exact fun hmem => hnames.2.2 key hmem key (by simp) rfl
    have hput : Entries.put taken key v = taken ++ [(key, v)] := Entries.put_of_fresh hfresh v
    obtain ⟨middle, hfield⟩ := run_field hfields.1 (m := ⟨outer, .name taken, last⟩) (.inl rfl) hdepth
      (position + 1) ((writeFields plain fields).toList ++ '\x7d' :: rest)
    obtain ⟨next, hrest⟩ := ih hfields.2 (taken ++ [(key, v)]) (by rwa [List.append_assoc]) key v
      middle
    refine ⟨next, ?_⟩
    rw [htext]
    refine (run_of_step rfl _).trans (hfield.trans ?_)
    rw [hput, hrest, List.append_assoc, List.singleton_append]

theorem completes_object {fields : Value.Fields} (hnames : (Entries.keys fields).Nodup)
    (hfields : ∀ field ∈ fields, Completes depth field.2) : Completes (depth + 1) (.object fields) := by
  intro m position rest hawaits hdepth
  have hroom : m.isFull = false := by
    simp only [isFull, decide_eq_false_iff_not]
    omega
  have hopen : m.step position .openObject = .ok { m with expect := .nameOrClose [] } := by
    rw [step_of_awaits hawaits position (by simp), takeValue, hroom]
    rfl
  cases fields with
  | nil =>
    have htext : (write plain (.object [])).toList = ['\x7b', '\x7d'] := by simp [write]
    have hclose : ({ m with expect := .nameOrClose [] } : Machine).step (position + 1) .closeObject
        = .ok (m.complete (.object [])) := congrArg Except.ok (complete_eq_of_stack rfl _)
    refine ⟨position + 1 + 1, ?_⟩
    rw [htext]
    exact (run_of_step hopen _).trans (run_of_step hclose _)
  | cons field fields =>
    obtain ⟨key, v⟩ := field
    rw [List.forall_mem_cons] at hfields
    have htext : (write plain (.object ((key, v) :: fields))).toList ++ rest
        = '\x7b' :: ((quote plain key).toList ++ ':' :: ((write plain v).toList
          ++ ((writeFields plain fields).toList ++ '\x7d' :: rest))) := by
      simp [write, plain]
    have hinside : m.stack.length + 1 + depth ≤ nestingLimit := by omega
    obtain ⟨middle, hfield⟩ := run_field hfields.1 (m := { m with expect := .nameOrClose [] })
      (.inr rfl) hinside (position + 1) ((writeFields plain fields).toList ++ '\x7d' :: rest)
    obtain ⟨next, hrest⟩ := run_writeFields hfields.2 [(key, v)] hnames hinside key v middle rest
    refine ⟨next, ?_⟩
    rw [htext]
    refine (run_of_step hopen _).trans (hfield.trans (hrest.trans ?_))
    rw [closed, complete_eq_of_stack (n := m) rfl]
    rfl

theorem completes_of_simple {v : Value} (hv : v.Simple depth) : Completes depth v := by
  induction hv with
  | null depth => exact completes_null depth
  | bool depth b => exact completes_bool depth b
  | text depth s => exact completes_string depth s
  | list _ ih => exact completes_list ih
  | object hnames _ ih => exact completes_object hnames ih

end Machine

/-- **What is written for sending is read back as it was**, if it is not nested more deeply than the
reader allows. -/
theorem read_write {depth : Nat} (hdepth : depth ≤ nestingLimit) {v : Value} (hv : v.Simple depth) :
    read (write plain v) = .ok v := by
  obtain ⟨next, hrun⟩ := Machine.completes_of_simple hv .start 0 [] (.inl rfl)
    (by simpa [Machine.start] using hdepth)
  rw [List.append_nil] at hrun
  unfold read
  dsimp only
  rw [hrun]
  rfl

end Json

end Runbook
