import Runbook.Transformation

/-!
# What transformations pass on

A transformation reads its input where its output goes. Filtering, mapping and grouping want a list, so
that a text which is the input of a transformation that succeeds is also its output: a field that holds a
text keeps it, whatever replaces runtime data. The same goes for the runtime data as a whole, which only
a transformation of another kind gives out, and only as it came in.
-/

namespace Runbook.TransformationConfig

variable {config : TransformationConfig} {data : Data} {d : Datum}

/-- What the target field holds is what the transformation works on. -/
theorem input_of_get?_target (h : Entries.get? data config.target = some d) :
    config.input data = .ok d := by
  unfold target at h
  unfold input
  cases hsource : config.givenSource? with
  | none =>
    rw [hsource, Option.getD_none] at h
    simp [h]
  | some source =>
    rw [hsource, Option.getD_some] at h
    simp [h]

/-- A text is only ever passed on. -/
theorem eq_of_apply_text {s : String} (h : config.apply (.value (.string s)) = .ok d) :
    d = .value (.string s) := by
  unfold apply at h
  split at h
  · cases h
  · cases h
  · split at h <;> cases h
  · exact (Except.ok.inj h).symm

theorem get?_put_target_of_text {s field : String}
    (htext : Entries.get? data field = some (.value (.string s))) (hrun : config.run data = .ok d) :
    Entries.get? (Entries.put data config.target d) field = some (.value (.string s)) := by
  by_cases htarget : config.target = field
  · subst htarget
    have happly : config.apply (.value (.string s)) = .ok d := by
      rw [run, input_of_get?_target htext] at hrun
      exact hrun
    rw [eq_of_apply_text happly, Entries.get?_put_self]
  · rw [Entries.get?_put_of_ne data d htarget, htext]

/-! ### The runtime data as a whole -/

theorem kind?_eq_none_iff :
    config.kind? = none ↔ config.transformation ∉ ["filter", "map", "aggregate"] := by
  unfold kind? TransformationKind.ofName?
  split <;> simp_all

theorem givenSource?_eq_none_iff :
    config.givenSource? = none ↔ config.source = none ∨ config.source = some "" := by
  unfold givenSource?
  cases config.source <;> simp

theorem target_of_givenSource_eq_none (h : config.givenSource? = none) :
    config.target = Data.defaultField := by
  rw [target, h, Option.getD_none]

theorem input_eq_whole_iff :
    config.input data = .ok .whole ↔
      Entries.get? data config.target = some .whole ∨
        config.givenSource? = none ∧ Entries.get? data Data.defaultField = none := by
  unfold input target
  cases hsource : config.givenSource? with
  | none => cases hfield : Entries.get? data Data.defaultField <;> simp [hfield]
  | some source => cases hfield : Entries.get? data source <;> simp [hfield]

theorem whole_of_input_of_missing (hmissing : Entries.get? data config.target = none)
    (hinput : config.input data = .ok d) : config.givenSource? = none ∧ d = .whole := by
  unfold target at hmissing
  unfold input at hinput
  cases hsource : config.givenSource? with
  | none =>
    rw [hsource, Option.getD_none] at hmissing
    simp only [hsource, hmissing, Option.getD_none, Except.ok.injEq] at hinput
    exact ⟨rfl, hinput.symm⟩
  | some source =>
    rw [hsource, Option.getD_some] at hmissing
    simp [hsource, hmissing] at hinput

/-- Only a transformation of no known kind takes the whole, and it passes it on. -/
theorem apply_whole_eq_ok_iff : config.apply .whole = .ok d ↔ config.kind? = none ∧ d = .whole := by
  unfold apply
  split
  · simp [*, items, Except.map]
  · simp [*, items, Except.map]
  · split <;> simp [*, items, Except.map]
  · simp [*, eq_comm]

theorem apply_eq_whole_iff : config.apply d = .ok .whole ↔ config.kind? = none ∧ d = .whole := by
  unfold apply
  split
  · cases hitems : items d <;> simp [*, Except.map]
  · cases hitems : items d <;> simp [*, Except.map]
  · split
    · cases hitems : items d <;> simp [*, Except.map]
    · simp [*]
  · simp [*]

theorem run_eq_whole_iff :
    config.run data = .ok .whole ↔ config.kind? = none ∧ config.input data = .ok .whole := by
  unfold run
  cases hinput : config.input data with
  | error error => simp [Except.bind]
  | ok d => simp [Except.bind, apply_eq_whole_iff]

theorem eq_whole_of_run (hinput : config.input data = .ok .whole) (hrun : config.run data = .ok d) :
    config.kind? = none ∧ d = .whole := by
  rw [run, hinput] at hrun
  exact apply_whole_eq_ok_iff.mp hrun

theorem whole_of_run_of_missing (hmissing : Entries.get? data config.target = none)
    (hrun : config.run data = .ok d) :
    config.givenSource? = none ∧ config.kind? = none ∧ d = .whole := by
  unfold run at hrun
  cases hinput : config.input data with
  | error error => simp [hinput, Except.bind] at hrun
  | ok input =>
    obtain ⟨hsource, rfl⟩ := whole_of_input_of_missing hmissing hinput
    exact ⟨hsource, eq_whole_of_run hinput (by rw [run, hinput]; simpa [hinput] using hrun)⟩

end Runbook.TransformationConfig
