import Runbook.Interaction

/-!
# Properties of dialogues and interactions

What can be said of a dialogue from what it is made of: whether it ever hangs, what its answers and its
failures have in common, and what the calls have in common that an interaction adds to the trace.
-/

namespace Runbook

/-- Whether all failures of a result have a property. -/
def FailsOnly {ε α : Type} (P : ε → Prop) (result : Except ε α) : Prop :=
  ∀ fault, result = .error fault → P fault

namespace FailsOnly

variable {ε α β : Type} {P : ε → Prop}

theorem ok (a : α) : FailsOnly P (.ok a) := nofun

theorem pure (a : α) : FailsOnly P (Pure.pure a : Except ε α) := nofun

theorem error {fault : ε} (h : P fault) : FailsOnly P (.error fault : Except ε α) := by
  rintro _ ⟨⟩
  exact h

theorem bind {result : Except ε α} {f : α → Except ε β} (hresult : FailsOnly P result)
    (hf : ∀ a, FailsOnly P (f a)) : FailsOnly P (result >>= f) := by
  cases result with
  | ok a => exact hf a
  | error fault => exact error (hresult fault rfl)

theorem map {result : Except ε α} (h : FailsOnly P result) (f : α → β) :
    FailsOnly P (result.map f) := by
  cases result with
  | ok a => exact ok _
  | error fault => exact error (h fault rfl)

theorem mapError {δ : Type} {Q : δ → Prop} {f : ε → δ} (hf : ∀ fault, Q (f fault))
    (result : Except ε α) : FailsOnly Q (result.mapError f) := by
  cases result with
  | ok a => exact ok a
  | error fault => exact error (hf fault)

theorem foldlM {f : β → α → Except ε β} (hf : ∀ b a, FailsOnly P (f b a)) (as : List α) (b : β) :
    FailsOnly P (as.foldlM f b) := by
  induction as generalizing b with
  | nil => exact .pure b
  | cons a rest ih => exact .bind (hf b a) ih

end FailsOnly

namespace Dialogue

variable {σ α β : Type}

/-- Whether a dialogue comes back in every world. -/
def Returns (x : Dialogue σ α) : Prop :=
  ∀ world, (x world).1 ≠ .hung

/-- Whether every answer of a dialogue has a property. -/
def Gives (P : α → Prop) (x : Dialogue σ α) : Prop :=
  ∀ world a, (x world).1 = .answered a → P a

/-- Whether all failures that a dialogue raises have a property. -/
def RaisesOnly (P : Failure → Prop) (x : Dialogue σ α) : Prop :=
  ∀ world failure, (x world).1 = .raised failure → P failure

theorem returns_pure (a : α) : Returns (pure a : Dialogue σ α) := by
  intro world hhung
  cases hhung

theorem returns_raise (failure : Failure) : Returns (raise failure : Dialogue σ α) := by
  intro world hhung
  cases hhung

theorem returns_ofExcept (result : Except Failure α) : Returns (ofExcept result : Dialogue σ α) := by
  cases result with
  | ok a => exact returns_pure a
  | error failure => exact returns_raise failure

theorem Returns.bind {x : Dialogue σ α} {f : α → Dialogue σ β} (hx : Returns x)
    (hf : ∀ a, Returns (f a)) : Returns (x >>= f) := by
  intro world
  have hreturns := hx world
  rw [bind_apply]
  rcases hreply : x world with ⟨a | failure | _, after⟩
  · exact hf a after
  · simp
  · simp [hreply] at hreturns

theorem Gives.mono {P Q : α → Prop} {x : Dialogue σ α} (h : Gives P x) (hPQ : ∀ a, P a → Q a) :
    Gives Q x :=
  fun world a ha => hPQ a (h world a ha)

theorem gives_pure {P : α → Prop} {a : α} (ha : P a) : Gives P (pure a : Dialogue σ α) := by
  intro world b hb
  obtain rfl : a = b := Reply.answered.inj hb
  exact ha

theorem gives_raise (P : α → Prop) (failure : Failure) :
    Gives P (raise failure : Dialogue σ α) := by
  intro world b hb
  cases hb

/-- What follows may use what the answers before it have in common. -/
theorem Gives.bind {P : α → Prop} {Q : β → Prop} {x : Dialogue σ α} {f : α → Dialogue σ β}
    (hx : Gives P x) (hf : ∀ a, P a → Gives Q (f a)) : Gives Q (x >>= f) := by
  intro world b hb
  rw [bind_apply] at hb
  rcases hreply : x world with ⟨a | failure | _, after⟩
  · have ha : P a := hx world a (by rw [hreply])
    exact hf a ha after b (by simpa [hreply] using hb)
  · simp [hreply] at hb
  · simp [hreply] at hb

theorem gives_bind {P : β → Prop} {x : Dialogue σ α} {f : α → Dialogue σ β}
    (hf : ∀ a, Gives P (f a)) : Gives P (x >>= f) :=
  Gives.bind (P := fun _ => True) (fun _ _ _ => trivial) fun a _ => hf a

theorem raisesOnly_pure {P : Failure → Prop} (a : α) : RaisesOnly P (pure a : Dialogue σ α) := nofun

theorem raisesOnly_ofExcept {P : Failure → Prop} {result : Except Failure α}
    (h : FailsOnly P result) : RaisesOnly P (ofExcept result : Dialogue σ α) := by
  cases result with
  | ok a => exact raisesOnly_pure a
  | error own =>
    rintro world _ ⟨⟩
    exact h own rfl

/-- What follows may use what the answers before it have in common. -/
theorem RaisesOnly.bind_of_gives {P : Failure → Prop} {Q : α → Prop} {x : Dialogue σ α}
    {f : α → Dialogue σ β} (hx : RaisesOnly P x) (hgives : Gives Q x)
    (hf : ∀ a, Q a → RaisesOnly P (f a)) : RaisesOnly P (x >>= f) := by
  intro world failure hfailure
  rw [bind_apply] at hfailure
  rcases hreply : x world with ⟨a | own | _, after⟩
  · have ha : Q a := hgives world a (by rw [hreply])
    exact hf a ha after failure (by simpa [hreply] using hfailure)
  · simp only [hreply, Reply.raised.injEq] at hfailure
    exact hfailure ▸ hx world own (by rw [hreply])
  · simp [hreply] at hfailure

theorem RaisesOnly.bind {P : Failure → Prop} {x : Dialogue σ α} {f : α → Dialogue σ β}
    (hx : RaisesOnly P x) (hf : ∀ a, RaisesOnly P (f a)) : RaisesOnly P (x >>= f) :=
  hx.bind_of_gives (Q := fun _ => True) (fun _ _ _ => trivial) fun a _ => hf a

end Dialogue

namespace Interaction

variable {σ α β : Type}

/-- Whether every call that an interaction makes has a property. The calls come after those made
before. -/
def Makes (Q : Call → Prop) (x : Interaction σ α) : Prop :=
  ∀ stage, ∃ made, (x stage).2.calls = stage.calls ++ made ∧ ∀ call ∈ made, Q call

variable {Q : Call → Prop}

theorem makes_of_calls_eq {x : Interaction σ α} (h : ∀ stage, (x stage).2.calls = stage.calls) :
    Makes Q x := fun stage => ⟨[], by rw [h stage, List.append_nil], by simp⟩

theorem makes_pure (a : α) : Makes Q (pure a : Interaction σ α) :=
  makes_of_calls_eq fun _ => rfl

theorem makes_raise (failure : Failure) : Makes Q (Dialogue.raise failure : Interaction σ α) :=
  makes_of_calls_eq fun _ => rfl

theorem makes_ofExcept (result : Except Failure α) :
    Makes Q (Dialogue.ofExcept result : Interaction σ α) := by
  cases result with
  | ok a => exact makes_pure a
  | error failure => exact makes_raise failure

theorem makes_consult (service : Service σ α β) (a : α) : Makes Q (consult service a) :=
  makes_of_calls_eq fun _ => rfl

theorem makes_perform {call : Call} (hcall : Q call) (service : Service σ α β) (a : α) :
    Makes Q (perform call service a) :=
  fun _ => ⟨[call], rfl, by simpa using hcall⟩

theorem Makes.bind {x : Interaction σ α} {f : α → Interaction σ β} (hx : Makes Q x)
    (hf : ∀ a, Makes Q (f a)) : Makes Q (x >>= f) := by
  intro stage
  obtain ⟨first, hfirst, hfirstQ⟩ := hx stage
  rw [Dialogue.bind_apply]
  rcases hreply : x stage with ⟨a | failure | _, after⟩
  · obtain ⟨second, hsecond, hsecondQ⟩ := hf a after
    refine ⟨first ++ second, ?_, ?_⟩
    · rw [hreply] at hfirst
      rw [hsecond, hfirst, List.append_assoc]
    · exact List.forall_mem_append.mpr ⟨hfirstQ, hsecondQ⟩
  · exact ⟨first, by simpa [hreply] using hfirst, hfirstQ⟩
  · exact ⟨first, by simpa [hreply] using hfirst, hfirstQ⟩

theorem returns_consult {service : Service σ α β} (hservice : ∀ a, (service a).Returns) (a : α) :
    (consult service a).Returns := fun stage => hservice a stage.world

theorem returns_perform {service : Service σ α β} (hservice : ∀ a, (service a).Returns)
    (call : Call) (a : α) : (perform call service a).Returns := fun stage => hservice a stage.world

end Interaction

end Runbook
