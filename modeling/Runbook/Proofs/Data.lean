import Runbook.Data

/-!
# Runtime data that contain themselves

Data contain themselves when a field holds them as a whole. Only then is there no text for what a field
holds, and only for a field that holds the whole. Data that hold themselves in the default field, and
nowhere else, do so until that field gets another value.
-/

namespace Runbook.Data

variable {data : Data} {d : Datum} {failure : Failure}

theorem isCircular_iff : data.isCircular = true ↔ ∃ entry ∈ data, entry.2 = .whole := by
  unfold isCircular
  rw [List.any_eq_true]
  refine exists_congr fun entry => and_congr_right fun _ => ?_
  rcases entry with ⟨key, v | _⟩ <;> simp

theorem toFields?_eq_none_iff : data.toFields? = none ↔ data.isCircular = true := by
  rw [isCircular_iff]
  induction data with
  | nil => simp [toFields?]
  | cons entry rest ih =>
    rcases entry with ⟨key, v | _⟩
    · simpa [toFields?] using ih
    · simp [toFields?]

theorem stringify_eq_error_iff :
    data.stringify d = .error failure ↔
      failure = .circular ∧ d = .whole ∧ data.isCircular = true := by
  unfold stringify resolve
  rw [← toFields?_eq_none_iff]
  cases d with
  | value v => simp [Except.map]
  | whole => cases data.toFields? <;> simp [Except.map, eq_comm]

/-- The text of a field that does not hold the data themselves is the same in other data. -/
theorem stringify_of_ne_whole (h : d ≠ .whole) (data other : Data) :
    data.stringify d = other.stringify d := by
  cases d with
  | value v => rfl
  | whole => exact absurd rfl h

/-! ### The default field -/

/-- The data hold themselves in the default field and nowhere else. -/
structure HoldsItself (data : Data) : Prop where
  default : Entries.get? data defaultField = some .whole
  only : ∀ entry ∈ data, entry.2 = .whole → entry.1 = defaultField

theorem HoldsItself.isCircular (h : data.HoldsItself) : data.isCircular = true :=
  isCircular_iff.mpr ⟨_, Entries.mem_of_get? h.default, rfl⟩

theorem HoldsItself.get?_eq_whole_iff (h : data.HoldsItself) {field : String} :
    Entries.get? data field = some .whole ↔ field = defaultField := by
  constructor
  · intro hfield
    exact h.only _ (Entries.mem_of_get? hfield) rfl
  · rintro rfl
    exact h.default

theorem get?_ne_whole (h : data.isCircular = false) (field : String) :
    Entries.get? data field ≠ some .whole := by
  intro hfield
  rw [isCircular_iff.mpr ⟨_, Entries.mem_of_get? hfield, rfl⟩] at h
  cases h

theorem isCircular_put_value (h : data.isCircular = false) (field : String) (v : Value) :
    isCircular (Entries.put data field (.value v)) = false := by
  rw [← Bool.not_eq_true, isCircular_iff] at h ⊢
  rintro ⟨entry, hentry, hwhole⟩
  rcases Entries.mem_of_mem_put hentry with rfl | hbefore
  · cases hwhole
  · exact h ⟨entry, hbefore, hwhole⟩

theorem holdsItself_put_whole (h : ∀ entry ∈ data, entry.2 = .whole → entry.1 = defaultField) :
    HoldsItself (Entries.put data defaultField .whole) where
  default := Entries.get?_put_self _ _ _
  only entry hentry hwhole := by
    rcases Entries.mem_of_mem_put hentry with rfl | hbefore
    · rfl
    · exact h entry hbefore hwhole

theorem HoldsItself.put_value (h : data.HoldsItself) {field : String} (hfield : field ≠ defaultField)
    (v : Value) : HoldsItself (Entries.put data field (.value v)) where
  default := by rw [Entries.get?_put_of_ne _ _ hfield, h.default]
  only entry hentry hwhole := by
    rcases Entries.mem_of_mem_put hentry with rfl | hbefore
    · cases hwhole
    · exact h.only entry hbefore hwhole

theorem isCircular_ofFields (fields : Value.Fields) : isCircular (ofFields fields) = false := by
  rw [← Bool.not_eq_true, isCircular_iff]
  rintro ⟨entry, hentry, hwhole⟩
  obtain ⟨field, -, rfl⟩ := List.mem_map.mp hentry
  cases hwhole

end Runbook.Data
