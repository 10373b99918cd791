import Mathlib.Algebra.BigOperators.Group.Finset.Piecewise
import Mathlib.Data.Fintype.Basic
import Runbook.Proofs.Engine.Action

/-!
# Runs side by side

Runs of one engine share its services and its sink and take their actions by turns, in any order. With
services that have no memory each of them takes the course that it takes alone, and a sink that keeps
what it is given has an entry for each run that has ended with a final record.
-/

namespace Runbook

variable {σ τ : Type}

/-! ### Runs that share a stage and a sink -/

/-- Runs under way at one engine, each in its phase. -/
structure Crowd (ι σ τ : Type) where
  phase : ι → Phase
  stage : Stage σ
  sink : τ

namespace Crowd

variable {ι : Type}

/-- Submissions of which nothing has come yet. -/
def gathered (ids : ι → String) (submissions : ι → Submission) (stage : Stage σ) (sink : τ) :
    Crowd ι σ τ where
  phase i := .submitted (ids i) (submissions i)
  stage := stage
  sink := sink

def turn (crowd : Crowd ι σ τ) (i : ι) : Turn σ τ where
  phase := crowd.phase i
  stage := crowd.stage
  sink := crowd.sink

def Over (crowd : Crowd ι σ τ) : Prop :=
  ∀ i, (crowd.phase i).isEnded = true

end Crowd

namespace Engine

variable {engine : Engine σ τ} {ι : Type} [DecidableEq ι]

/-- One of the runs takes its next action. -/
def move (engine : Engine σ τ) (crowd : Crowd ι σ τ) (i : ι) : Crowd ι σ τ where
  phase := Function.update crowd.phase i (engine.act (crowd.turn i)).phase
  stage := (engine.act (crowd.turn i)).stage
  sink := (engine.act (crowd.turn i)).sink

/-- The runs take their actions in turns, as the schedule names them. -/
def interleave (engine : Engine σ τ) (schedule : List ι) (crowd : Crowd ι σ τ) : Crowd ι σ τ :=
  schedule.foldl engine.move crowd

section Interleave

variable (hfunctional : engine.registry.All Executor.Functional)
  (hlookup : Service.Functional engine.lookup)
include hfunctional hlookup

theorem plain_act_congr {turn other : Turn σ τ} (h : turn.phase.plain = other.phase.plain) :
    (engine.act turn).phase.plain = (engine.act other).phase.plain := by
  calc (engine.act turn).phase.plain
      = (engine.act ⟨turn.phase.plain, turn.stage, turn.sink⟩).phase.plain :=
        plain_act hfunctional hlookup _ _ _ _ _
    _ = (engine.act ⟨other.phase.plain, turn.stage, turn.sink⟩).phase.plain := by rw [h]
    _ = (engine.act other).phase.plain := (plain_act hfunctional hlookup _ _ _ _ _).symm

/-- Among others a run is where as many actions of its own bring it alone. -/
theorem plain_interleave (schedule : List ι) (crowd : Crowd ι σ τ) (i : ι) (turn : Turn σ τ)
    (h : (crowd.phase i).plain = turn.phase.plain) :
    ((engine.interleave schedule crowd).phase i).plain
      = (engine.act^[schedule.count i] turn).phase.plain := by
  induction schedule generalizing crowd turn with
  | nil => exact h
  | cons j schedule ih =>
    by_cases hturn : j = i
    · subst hturn
      rw [List.count_cons_self, Function.iterate_succ_apply]
      apply ih
      simp only [move, Function.update_self]
      exact plain_act_congr hfunctional hlookup h
    · rw [List.count_cons_of_ne hturn]
      apply ih
      simpa only [move, Function.update_of_ne (Ne.symm hturn)] using h

variable (ids : ι → String) (submissions : ι → Submission) (stage : Stage σ) (sink : τ)

theorem ending_plain_of_interleave {schedule : List ι} {i : ι} {ending : Ending}
    (hended : (engine.interleave schedule (.gathered ids submissions stage sink)).phase i
      = .ended ending) (id : String) (other : Stage σ) (state : τ) :
    ending.plain = (engine.run id (submissions i) other state).ending.plain := by
  have hphase := plain_interleave hfunctional hlookup schedule
    (.gathered ids submissions stage sink) i ⟨.submitted id (submissions i), other, state⟩ rfl
  rw [hended] at hphase
  obtain ⟨found, hfound, hplain⟩ := Phase.exists_of_plain_eq_ended hphase.symm
  rw [(engine.settles_run id (submissions i) other state).ending_eq hfound, hplain]

/-- Runs that get turns enough all come to their ends, whoever else is waiting. -/
theorem exists_turns :
    ∃ turns : ι → ℕ, ∀ schedule : List ι, (∀ i, turns i ≤ schedule.count i) →
      (engine.interleave schedule (.gathered ids submissions stage sink)).Over := by
  choose turns hturns using fun i => engine.settles_run (ids i) (submissions i) stage sink
  refine ⟨turns, fun schedule hschedule i => ?_⟩
  have hphase := plain_interleave hfunctional hlookup schedule
    (.gathered ids submissions stage sink) i ⟨.submitted (ids i) (submissions i), stage, sink⟩ rfl
  -- Alone it has ended after so many turns, and any further ones pass it by.
  obtain ⟨further, hfurther⟩ := Nat.exists_eq_add_of_le' (hschedule i)
  rw [hfurther, Function.iterate_add_apply, hturns i, iterate_act_of_ended rfl] at hphase
  obtain ⟨ending, hending, -⟩ := Phase.exists_of_plain_eq_ended hphase
  exact Phase.isEnded_iff.mpr ⟨ending, hending⟩

end Interleave

end Engine

/-! ### The entries in the sink -/

/-- The sink has got the entries of the runs that have ended, besides those kept before. -/
def Crowd.Tallies {ι : Type} [Fintype ι] (runs : τ → Multiset RunEntry) (kept : Multiset RunEntry)
    (crowd : Crowd ι σ τ) : Prop :=
  runs crowd.sink = kept + ∑ i, (crowd.phase i).entries

section Tallies

variable {ι : Type} [Fintype ι] {runs : τ → Multiset RunEntry}

theorem Crowd.tallies_gathered (ids : ι → String) (submissions : ι → Submission) (stage : Stage σ)
    (sink : τ) : (gathered ids submissions stage sink).Tallies runs (runs sink) := by
  have hnone : ∑ i, ((gathered ids submissions stage sink).phase i).entries = 0 :=
    Finset.sum_eq_zero fun _ _ => rfl
  rw [Tallies, hnone, add_zero]
  rfl

namespace Engine

variable [DecidableEq ι] {engine : Engine σ τ} {target : Sink τ} (hkeeps : target.Keeps runs)
  (hsink : engine.recorder.sink = some target) {kept : Multiset RunEntry}
include hkeeps hsink

theorem tallies_move {crowd : Crowd ι σ τ} (h : crowd.Tallies runs kept) (i : ι) :
    (engine.move crowd i).Tallies runs kept := by
  obtain ⟨added, hruns, hentries⟩ := tally_act hkeeps hsink (crowd.turn i)
  -- Only the run whose turn it was can have an entry that it did not have before.
  have hupdate : (fun j => ((engine.move crowd i).phase j).entries)
      = Function.update (fun j => (crowd.phase j).entries) i ((crowd.phase i).entries + added) := by
    funext j
    by_cases hj : j = i
    · subst hj
      simp only [move, Function.update_self]
      exact hentries
    · simp [move, hj]
  have hsplit := Finset.add_sum_erase Finset.univ (fun j => (crowd.phase j).entries)
    (Finset.mem_univ i)
  calc runs (engine.move crowd i).sink
      = kept + ∑ j, (crowd.phase j).entries + added := by rw [← h]; exact hruns
    _ = kept + ∑ j, ((engine.move crowd i).phase j).entries := by
      rw [hupdate, Finset.sum_update_of_mem (Finset.mem_univ i), Finset.sdiff_singleton_eq_erase,
        ← hsplit, add_assoc, add_right_comm]

theorem tallies_interleave (schedule : List ι) {crowd : Crowd ι σ τ}
    (h : crowd.Tallies runs kept) : (engine.interleave schedule crowd).Tallies runs kept := by
  induction schedule generalizing crowd with
  | nil => exact h
  | cons i schedule ih => exact ih (tallies_move hkeeps hsink h i)

end Engine

end Tallies

namespace Engine

variable {engine : Engine σ τ} {ι : Type} [Fintype ι] [DecidableEq ι]

/-- **Runs side by side are independent.** Let the services of one engine, with the lookup of workflows
among them, answer by what they are asked alone. Then submissions that take their actions by turns all
come to their ends once they have had turns enough. However the turns fell, each has ended as its run
alone ends, ids and times aside: with a final record, if it was accepted and does not hang with nothing
to end that. A sink that keeps what it is given has then got one entry for each final record. -/
theorem interleaved_runs_independent (hmemoryless : engine.registry.Memoryless)
    (hlookup : Service.Functional engine.lookup) (hparsed : engine.LooksUpParsed)
    {target : Sink τ} {runs : τ → Multiset RunEntry} (hkeeps : target.Keeps runs)
    (hsink : engine.recorder.sink = some target) (ids : ι → String) (submissions : ι → Submission)
    (stage : Stage σ) (sink : τ) :
    (∃ turns : ι → ℕ, ∀ schedule : List ι, (∀ i, turns i ≤ schedule.count i) →
        (engine.interleave schedule (.gathered ids submissions stage sink)).Over) ∧
      ∀ schedule : List ι,
        (engine.interleave schedule (.gathered ids submissions stage sink)).Over →
          ∃ endings : ι → Ending,
            (∀ i, (engine.interleave schedule (.gathered ids submissions stage sink)).phase i
              = .ended (endings i)) ∧
            (∀ i id other state,
              (endings i).plain = (engine.run id (submissions i) other state).ending.plain) ∧
            (∀ i id request other state, (submissions i).accept = .ok request →
              ¬ engine.HangsOpenly id request other state →
                ∃ record data, endings i = .finished record data) ∧
            runs (engine.interleave schedule (.gathered ids submissions stage sink)).sink
              = runs sink + ∑ i, (endings i).entries := by
  have hfunctional := hmemoryless.functional
  refine ⟨exists_turns hfunctional hlookup ids submissions stage sink, ?_⟩
  intro schedule hover
  choose endings hendings using fun i => Phase.isEnded_iff.mp (hover i)
  have halone : ∀ i id other state,
      (endings i).plain = (engine.run id (submissions i) other state).ending.plain :=
    fun i => ending_plain_of_interleave hfunctional hlookup ids submissions stage sink (hendings i)
  refine ⟨endings, hendings, halone, ?_, ?_⟩
  · intro i id request other state haccept hends
    obtain ⟨record, data, order, shape, hfinal, -⟩ := exists_shape_of_execute hparsed hends
    have hplain := halone i id other state
    rw [run_of_accept haccept, hfinal] at hplain
    exact Ending.exists_of_plain_eq_finished hplain
  · have hstart : (Crowd.gathered ids submissions stage sink).Tallies runs (runs sink) :=
      Crowd.tallies_gathered ids submissions stage sink
    have htallies := tallies_interleave hkeeps hsink schedule hstart
    simpa only [Crowd.Tallies, hendings, Phase.entries] using htallies

end Engine

namespace Sample

/-- Records what is done with tidings. -/
def gazette : Engine Unit ExecutionLog :=
  tidingsEngine.recordedBy { sink := some ExecutionLog.sink, stepsWanted := true } tidingsEngine.clock

/-- The sample request, sent by two. -/
def askedTwice : Fin 2 → Submission
  | 0 => submission
  | 1 => { submission with userId := .string "bob" }

def editions : Fin 2 → String
  | 0 => "morning"
  | 1 => "evening"

/-- The two runs by turns, six actions of each. -/
def byTurns : Crowd (Fin 2) Unit ExecutionLog :=
  gazette.interleave [0, 1, 0, 1, 1, 0, 0, 1, 1, 0, 0, 1]
    (.gathered editions askedTwice (.start ()) .empty)

theorem tidings_interleave :
    gazette.registry.Memoryless ∧ Service.Functional gazette.lookup ∧ gazette.LooksUpParsed ∧
      (ExecutionLog.sink.Keeps fun log => (log.runs : Multiset RunEntry)) ∧
      gazette.recorder.sink = some ExecutionLog.sink ∧
      (∀ i, ∃ request, (askedTwice i).accept = .ok request ∧
        ¬ gazette.HangsOpenly (editions i) request (.start ()) .empty) ∧
      ∃ endings : Fin 2 → Ending,
        (∀ i, byTurns.phase i = .ended (endings i)) ∧
        (∀ i id other state,
          (endings i).plain = (gazette.run id (askedTwice i) other state).ending.plain) ∧
        (∀ i, ∃ record data, endings i = .finished record data) ∧
        (byTurns.sink.runs : Multiset RunEntry) = ∑ i, (endings i).entries := by
  have hmemoryless : gazette.registry.Memoryless :=
    Registry.memoryless_standard stateless_functional _
  have hlookup : Service.Functional gazette.lookup := fun _ _ _ => rfl
  have hparsed : gazette.LooksUpParsed :=
    Engine.looksUpParsed_knowing tidings_parsed tidingsEngine.registry
  have haccept : ∀ i, ∃ request, (askedTwice i).accept = .ok request ∧
      ¬ gazette.HangsOpenly (editions i) request (.start ()) .empty := by
    intro i
    obtain ⟨request, hrequest⟩ : ∃ request, (askedTwice i).accept = .ok request := by
      match i with
      | 0 => exact ⟨_, rfl⟩
      | 1 => exact ⟨_, rfl⟩
    refine ⟨request, hrequest, ?_⟩
    exact Engine.not_hangsOpenly_of_responsive rfl stateless_responsive
      (by simp [gazette, Engine.recordedBy, tidingsEngine, Engine.knowing])
  obtain ⟨-, hover⟩ := Engine.interleaved_runs_independent hmemoryless hlookup hparsed
    ExecutionLog.keeps_sink rfl editions askedTwice (.start ()) .empty
  have hended : byTurns.Over := by
    unfold Crowd.Over
    decide +kernel
  obtain ⟨endings, hendings, halone, hfinal, hruns⟩ := hover _ hended
  refine ⟨hmemoryless, hlookup, hparsed, ExecutionLog.keeps_sink, rfl, haccept, endings, hendings,
    halone, ?_, ?_⟩
  · intro i
    obtain ⟨request, hrequest, hends⟩ := haccept i
    exact hfinal i _ request _ _ hrequest hends
  · exact hruns.trans (zero_add _)

end Sample

end Runbook
