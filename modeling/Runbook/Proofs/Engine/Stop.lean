import Runbook.Proofs.Engine.Reach

/-!
# Where a run over steps stops

A run over steps with distinct ids takes them all, or it stops at a step that ends it by a fault or that
hangs. What it is then is what it was before that step, but for the stage.
-/

namespace Runbook.Engine

variable {σ τ : Type} {engine : Engine σ τ}

/-- The ways for a run to stop at a point, with what it has come to then. -/
inductive Stops (engine : Engine σ τ) : List Step → Progress σ τ → Course σ τ → Prop where
  | done (last : Progress σ τ) : Stops engine [] last (.continued last)
  | faulted {step : Step} {rest : List Step} {last : Progress σ τ} {fault : EngineFault}
      {after : Stage σ}
      (hinvoke : engine.invoke last.record last.data step last.stage
        = (.answered (.error fault), after)) :
      Stops engine (step :: rest) last (.faulted fault { last with stage := after })
  | stalled {step : Step} {rest : List Step} {last : Progress σ τ} {after : Stage σ}
      (hinvoke : engine.invoke last.record last.data step last.stage = (.hung, after)) :
      Stops engine (step :: rest) last (.stalled { last with stage := after })

section Reaches

variable {steps rest left : List Step} {progress point last : Progress σ τ}

theorem Reaches.trans (h : engine.Reaches steps progress rest point)
    (hrest : engine.Reaches rest point left last) : engine.Reaches steps progress left last := by
  induction h with
  | refl => exact hrest
  | step htaken _ ih => exact .step htaken (ih hrest)

theorem Reaches.takeSteps (h : engine.Reaches steps progress rest point) :
    engine.takeSteps steps progress = engine.takeSteps rest point := by
  induction h with
  | refl => rfl
  | step htaken _ ih => rw [Engine.takeSteps, htaken, ← ih]

end Reaches

theorem stops_of_takeStep {step : Step} (rest : List Step) {last : Progress σ τ}
    (hroom : ∀ result, ∃ record, last.record.addResult step.id result = .ok record)
    (hstuck : ∀ next, engine.takeStep step last ≠ .continued next) :
    engine.Stops (step :: rest) last (engine.takeStep step last) := by
  unfold takeStep at hstuck ⊢
  rcases hinvoke : engine.invoke last.record last.data step last.stage with
    ⟨(fault | result) | failure | _, after⟩
  · exact .faulted hinvoke
  · obtain ⟨record, hfiled⟩ := hroom result
    simp [hinvoke, hfiled] at hstuck
  · exact absurd (by rw [hinvoke]) (invoke_ne_raised failure)
  · exact .stalled hinvoke

variable {id : String} {request : RunRequest} {stage : Stage σ} {sink : τ} {order rest : List Step}
  {point : Progress σ τ}

/-- From every point of a run over steps with distinct ids there is one at which it stops. -/
theorem Reaches.exists_stop (hids : (order.map (·.id)).Nodup)
    (h : engine.Reaches order (engine.opening id request stage sink order) rest point) :
    ∃ left last course, engine.Reaches rest point left last ∧ engine.Stops left last course ∧
      engine.takeSteps order (engine.opening id request stage sink order) = course := by
  rw [h.takeSteps]
  rcases engine.exists_reaches rest point with
    ⟨last, hreach, htaken⟩ | ⟨step, left, last, hreach, htaken, hstuck⟩
  · exact ⟨[], last, _, hreach, .done last, htaken⟩
  · obtain ⟨taken, hsplit, haccounts⟩ := (h.trans hreach).accounts hids
    rw [← hsplit] at hids
    exact ⟨step :: left, last, _, hreach,
      stops_of_takeStep left (fun result => ⟨_, haccounts.addResult hids result⟩) hstuck, htaken⟩

end Runbook.Engine
