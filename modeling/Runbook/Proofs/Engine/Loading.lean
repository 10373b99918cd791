import Runbook.Engine
import Runbook.Proofs.Definition
import Runbook.Proofs.Schedule

/-!
# Loading a workflow

A workflow loads when its definition is found and its dependencies pass the check; otherwise there is
one failure to tell of, unless the lookup hangs. What the check passes the schedule can order, so the run
of a workflow that loads never gets stuck between the two.
-/

namespace Runbook

theorem LoadFailure.status_ofFailure (failure : Failure) :
    (ofFailure failure).status = 404 ∨ (ofFailure failure).status = 422 ∨
      (ofFailure failure).status = 500 := by
  cases failure with
  | notFound message => exact Or.inl rfl
  | invalidDefinition message => exact Or.inr (Or.inl rfl)
  | _ => exact Or.inr (Or.inr rfl)

namespace Engine

variable {σ τ : Type} (engine : Engine σ τ) (workflowId : String) (world : σ)

/-- The workflow is known by a definition whose dependencies pass the check. -/
def Loads (definition : Definition) : Prop :=
  (engine.lookup workflowId world).1 = .answered (some definition) ∧
    checkDependencies definition.steps = .ok ()

/-- The failures that keep a workflow from loading. -/
inductive FailsToLoad : Failure → Prop where
  | missing (hlookup : (engine.lookup workflowId world).1 = .answered none) :
      FailsToLoad (.notFound "Workflow not found")
  | lookup {failure : Failure} (hlookup : (engine.lookup workflowId world).1 = .raised failure) :
      FailsToLoad failure
  | dependencies {definition : Definition} {error : DependencyError}
      (hlookup : (engine.lookup workflowId world).1 = .answered (some definition))
      (hcheck : checkDependencies definition.steps = .error error) : FailsToLoad error.toFailure

def lookedUp (stage : Stage σ) : Stage σ :=
  { stage with world := (engine.lookup workflowId stage.world).2 }

/-- Loading gives a definition or a failure, or hangs in the lookup. -/
theorem load_cases (stage : Stage σ) :
    (∃ definition, engine.Loads workflowId stage.world definition ∧
        engine.load workflowId stage
          = (.answered (.ok definition), engine.lookedUp workflowId stage)) ∨
      (∃ failure, engine.FailsToLoad workflowId stage.world failure ∧
        engine.load workflowId stage
          = (.answered (.error (.ofFailure failure)), engine.lookedUp workflowId stage)) ∨
      ((engine.lookup workflowId stage.world).1 = .hung ∧
        engine.load workflowId stage = (.hung, engine.lookedUp workflowId stage)) := by
  have hconsult : Interaction.consult engine.lookup workflowId stage
      = ((engine.lookup workflowId stage.world).1, engine.lookedUp workflowId stage) := rfl
  unfold load
  rw [hconsult]
  cases hlookup : (engine.lookup workflowId stage.world).1 with
  | answered found =>
    cases found with
    | none => exact Or.inr (Or.inl ⟨_, .missing hlookup, rfl⟩)
    | some definition =>
      cases hcheck : checkDependencies definition.steps with
      | ok checked => exact Or.inl ⟨definition, ⟨hlookup, hcheck⟩, by simp [hcheck]⟩
      | error error =>
        exact Or.inr (Or.inl ⟨error.toFailure, .dependencies hlookup hcheck, by simp [hcheck]⟩)
  | raised failure => exact Or.inr (Or.inl ⟨failure, .lookup hlookup, rfl⟩)
  | hung => exact Or.inr (Or.inr ⟨rfl, rfl⟩)

variable {engine} {workflowId} {world}

theorem FailsToLoad.not_loads {failure : Failure} {definition : Definition}
    (h : engine.FailsToLoad workflowId world failure) :
    ¬ engine.Loads workflowId world definition := by
  rintro ⟨hfound, hpassed⟩
  cases h with
  | missing hlookup => simp [hlookup] at hfound
  | lookup hlookup => simp [hlookup] at hfound
  | dependencies hlookup hcheck =>
    obtain rfl : _ = definition := by simpa [hlookup] using hfound
    simp [hcheck] at hpassed

theorem load_of_loads {definition : Definition} {stage : Stage σ}
    (h : engine.Loads workflowId stage.world definition) :
    engine.load workflowId stage
      = (.answered (.ok definition), engine.lookedUp workflowId stage) := by
  rcases engine.load_cases workflowId stage with
    ⟨found, hfound, hload⟩ | ⟨failure, hfails, hload⟩ | ⟨hhung, hload⟩
  · obtain rfl : found = definition := by simpa [hfound.1] using h.1
    exact hload
  · exact absurd h hfails.not_loads
  · simp [h.1] at hhung

/-- The workflows are looked up where definitions have been parsed. -/
def LooksUpParsed (engine : Engine σ τ) : Prop :=
  ∀ workflowId world definition,
    (engine.lookup workflowId world).1 = .answered (some definition) → definition.Parsed

/-- An engine that knows one definition by any name, in a world where nothing happens. -/
def knowing (definition : Definition) (registry : Registry Unit) : Engine Unit Unit where
  clock _ := { micros := 0 }
  lookup _ := pure (some definition)
  registry := registry
  recorder := { sink := none, stepsWanted := false }
  byDependency := true

theorem looksUpParsed_knowing {definition : Definition} (hparsed : definition.Parsed)
    (registry : Registry Unit) : (knowing definition registry).LooksUpParsed := by
  intro workflowId world found hlookup
  obtain rfl : definition = found := by simpa [knowing] using hlookup
  exact hparsed

end Engine

/-- **The two ways to look at dependencies agree.** The search for cycles refuses steps with distinct
ids exactly when the greedy schedule does, so a parsed definition that loads can always be ordered. -/
theorem checkDependencies_error_iff_order_error {σ τ : Type} :
    (∀ steps : List Step, (steps.map (·.id)).Nodup →
      ((∃ error, checkDependencies steps = .error error) ↔
        ∃ error, Schedule.order steps true = .error error)) ∧
      ∀ (engine : Engine σ τ) (workflowId : String) (stage : Stage σ) (definition : Definition),
        definition.Parsed →
          (engine.load workflowId stage).1 = .answered (.ok definition) →
            ∃ ordered, Schedule.order definition.steps engine.byDependency = .ok ordered := by
  constructor
  · intro steps hids
    have hagree := Schedule.exists_order_iff_check hids
    cases hcheck : checkDependencies steps with
    | ok checked =>
      obtain ⟨ordered, hordered⟩ := hagree.mpr hcheck
      simp [hordered]
    | error found =>
      cases horder : Schedule.order steps true with
      | ok ordered =>
        have hpassed := hagree.mp ⟨ordered, horder⟩
        rw [hcheck] at hpassed
        cases hpassed
      | error stuck => exact ⟨fun _ => ⟨stuck, rfl⟩, fun _ => ⟨found, rfl⟩⟩
  · intro engine workflowId stage definition hparsed hload
    rcases engine.load_cases workflowId stage with
      ⟨found, hfound, hloaded⟩ | ⟨failure, _, hloaded⟩ | ⟨_, hloaded⟩
    · obtain rfl : found = definition := by simpa [hloaded] using hload
      exact Schedule.exists_order hparsed.nodup_ids hfound.2 engine.byDependency
    · simp [hloaded] at hload
    · simp [hloaded] at hload

theorem order_refuses_mutual_checks :
    (∃ error, Schedule.order [Sample.check "a" ["b"], Sample.check "b" ["a"]] true = .error error) ∧
      ∃ ordered, Schedule.order Sample.definition.steps true = .ok ordered := by
  obtain ⟨hagree, horder⟩ := @checkDependencies_error_iff_order_error Unit Unit
  constructor
  · have hcheck : checkDependencies [Sample.check "a" ["b"], Sample.check "b" ["a"]]
        = .error (.cycle ["a", "b", "a"]) := rfl
    exact (hagree _ (by decide)).mp ⟨_, hcheck⟩
  · exact horder (.knowing Sample.definition { executors := [], deadlines := ⟨true, none⟩ }) "checks"
      (.start ()) Sample.definition Sample.definition_parsed rfl

end Runbook
