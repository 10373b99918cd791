import Runbook.Condition
import Runbook.Proofs.Value.Equality
import Runbook.Proofs.Value.Order
import Runbook.Transformation

/-!
# Comparisons with given values

Filters and conditions compare a field with a value of the definition. Values that are strictly equal are
the same to them, whatever the field holds. The three comparisons by equality and order exclude one
another, and a comparison read from the other side is the opposite one.
-/

namespace Runbook

open Value

variable {data : Data} {v w : Value}

/-! ### Runtime data as a whole -/

theorem Data.wholeEq_object_iff {fields : Fields} :
    data.wholeEq (.object fields) = true ↔
      data.length = fields.length ∧ data.wholeEqFields fields = true := by
  rw [Data.wholeEq, Bool.and_eq_true, beq_iff_eq]

theorem Data.wholeEqFields_iff {fields : Fields} :
    data.wholeEqFields fields = true ↔
      ∀ field ∈ fields,
        (∃ u, Entries.get? data field.1 = some (.value u) ∧ nestedEq u field.2 = true) ∨
          Entries.get? data field.1 = some .whole ∧ data.wholeEq field.2 = true := by
  induction fields with
  | nil => simp [wholeEqFields]
  | cons field rest ih =>
    rw [wholeEqFields, Bool.and_eq_true, ih, List.forall_mem_cons]
    refine and_congr_left fun _ => ?_
    rcases Entries.get? data field.1 with _ | _ | _ <;> simp

theorem Data.wholeEq_of_plainlyEqual (h : PlainlyEqual v w) (hv : v.DistinctNames)
    (hw : w.DistinctNames) (hwhole : data.wholeEq v = true) : data.wholeEq w = true := by
  induction h with
  | null => exact hwhole
  | string s => exact hwhole
  | @count v w m n hcount =>
    cases v with
    | object fields => cases hcount
    | _ => simp [Data.wholeEq] at hwhole
  | list => simp [Data.wholeEq] at hwhole
  | @object fs gs hnames h ih =>
    cases hv with
    | object hfs hvalues =>
      cases hw with
      | object hgs hothers =>
        rw [Data.wholeEq_object_iff, Data.wholeEqFields_iff] at hwhole ⊢
        obtain ⟨hlength, hfields⟩ := hwhole
        refine ⟨hlength.trans (Entries.length_eq_of_keys_iff hfs hgs hnames), ?_⟩
        intro field hfield
        have hget : Entries.get? gs field.1 = some field.2 := Entries.get?_of_mem hgs hfield
        obtain ⟨b, hb⟩ :=
          Entries.exists_get?_of_mem_keys ((hnames field.1).mpr (Entries.mem_keys_of_get? hget))
        have hmem := Entries.mem_of_get? hb
        have hbNames := hvalues _ hmem
        have hfieldNames := hothers field hfield
        refine (hfields _ hmem).imp ?_ ?_
        · rintro ⟨u, hu, heq⟩
          have hplain : nestedEq b field.2 = true :=
            (nestedEq_iff_plainlyEqual hbNames hfieldNames).mpr (h _ _ _ hb hget)
          exact ⟨u, hu, nestedEq_trans heq hplain⟩
        · rintro ⟨hu, heq⟩
          exact ⟨hu, ih _ _ _ hb hget hbNames hfieldNames heq⟩

theorem Data.wholeEq_congr (hv : v.DistinctNames) (hw : w.DistinctNames)
    (h : strictEq v w = true) : data.wholeEq v = data.wholeEq w := by
  have hplain : PlainlyEqual v w :=
    (nestedEq_iff_plainlyEqual hv hw).mp (strictEq_iff_nestedEq.mp h).2.1
  rw [Bool.eq_iff_iff]
  constructor
  · intro hwhole
    exact Data.wholeEq_of_plainlyEqual hplain hv hw hwhole
  · intro hwhole
    exact Data.wholeEq_of_plainlyEqual hplain.symm hw hv hwhole

/-! ### Strictly equal values in the place of each other -/

theorem Data.fieldEq_congr (hv : v.DistinctNames) (hw : w.DistinctNames)
    (h : strictEq v w = true) (data : Data) (field : Option Datum) :
    data.fieldEq field v = data.fieldEq field w := by
  cases field with
  | none => rfl
  | some d =>
    cases d with
    | value u => exact strictEq_congr_right hv hw h u
    | whole => exact Data.wholeEq_congr hv hw h

theorem fieldsEq_congr_right (hv : v.DistinctNames) (hw : w.DistinctNames)
    (h : strictEq v w = true) (field : Option Value) :
    fieldsEq field (some v) = fieldsEq field (some w) := by
  cases field with
  | none => rfl
  | some u => exact strictEq_congr_right hv hw h u

theorem filterItems_congr (hv : v.DistinctNames) (hw : w.DistinctNames) (h : strictEq v w = true)
    (before after : List FieldMatch) (field : String) (items : List Value) :
    filterItems (before ++ ⟨field, v⟩ :: after) items
      = filterItems (before ++ ⟨field, w⟩ :: after) items := by
  unfold filterItems
  congr 1
  funext item
  rw [List.all_append, List.all_append, List.all_cons, List.all_cons,
    fieldsEq_congr_right hv hw h]

namespace Value

/-- A JSON value without floating-point numbers. -/
structure Exact where
  value : Value
  doubleFree : value.DoubleFree
  distinctNames : value.DistinctNames

/-- **Strict equality is equality of kind and content.** -/
theorem strictEq_equivalence :
    Equivalence (fun v w : Exact => strictEq v.value w.value = true) ∧
      (∀ v w : Exact, strictEq v.value w.value = true ↔
        v.value.kind = w.value.kind ∧ PlainlyEqual v.value w.value) ∧
      (∀ v : Option Value, fieldsEq none v = false ∧ fieldsEq v none = false) ∧
      ∀ v w : Exact, strictEq v.value w.value = true →
        (∀ (before after : List FieldMatch) (field : String) (items : List Value),
          filterItems (before ++ ⟨field, v.value⟩ :: after) items
            = filterItems (before ++ ⟨field, w.value⟩ :: after) items) ∧
        ∀ (data : Data) (field : String),
          Clause.holds ⟨field, "equals", v.value⟩ data
            = Clause.holds ⟨field, "equals", w.value⟩ data := by
  have hiff : ∀ v w : Exact, strictEq v.value w.value = true ↔
      v.value.kind = w.value.kind ∧ PlainlyEqual v.value w.value := by
    intro v w
    have hne : v.value ≠ .number (.double (.nan true)) := by
      intro hnan
      exact not_doubleFree_double _ (hnan ▸ v.doubleFree)
    rw [strictEq_iff_nestedEq, nestedEq_iff_plainlyEqual v.distinctNames w.distinctNames]
    exact and_congr_right fun _ => and_iff_left hne
  refine ⟨⟨?refl, ?symm, ?trans⟩, hiff, ?missing, ?replaced⟩
  case refl =>
    intro v
    exact (hiff v v).mpr ⟨rfl, v.doubleFree.plainlyEqual_self⟩
  case symm =>
    intro v w h
    exact strictEq_symm v.distinctNames w.distinctNames h
  case trans =>
    intro u v w huv hvw
    exact strictEq_trans huv hvw
  case missing =>
    intro v
    exact ⟨rfl, by cases v <;> rfl⟩
  case replaced =>
    intro v w h
    refine ⟨filterItems_congr v.distinctNames w.distinctNames h, fun data field => ?_⟩
    exact congrArg Except.ok (Data.fieldEq_congr v.distinctNames w.distinctNames h data _)

end Value

namespace Sample

def seats : Value.Exact where
  value := .object [("row", .int 1), ("free", .list [.bool true])]
  doubleFree := by simp
  distinctNames := by
    refine .object (by decide) ?_
    simp only [List.forall_mem_cons]
    exact ⟨.number _, .list (by simpa using .bool true), by simp⟩

/-- The same seats with the fields in another order, and numbers for booleans and booleans for numbers. -/
def recountedSeats : Value.Exact where
  value := .object [("free", .list [.int 1]), ("row", .bool true)]
  doubleFree := by simp
  distinctNames := by
    refine .object (by decide) ?_
    simp only [List.forall_mem_cons]
    exact ⟨.list (by simpa using .number _), .bool true, by simp⟩

theorem recountedSeats_replace_seats :
    Value.strictEq seats.value recountedSeats.value = true ∧
      Value.strictEq (.bool true) (.int 1) = false ∧
      (∀ items, filterItems [⟨"seats", seats.value⟩] items
        = filterItems [⟨"seats", recountedSeats.value⟩] items) ∧
      ∀ data, Clause.holds ⟨"seats", "equals", seats.value⟩ data
        = Clause.holds ⟨"seats", "equals", recountedSeats.value⟩ data := by
  obtain ⟨-, -, -, hreplace⟩ := Value.strictEq_equivalence
  have hequal : Value.strictEq seats.value recountedSeats.value = true := by decide
  obtain ⟨hfilter, hclause⟩ := hreplace seats recountedSeats hequal
  exact ⟨hequal, rfl, hfilter [] [] "seats", fun data => hclause data "seats"⟩

end Sample

/-! ### Equality and order together -/

theorem Data.fieldOrder?_of_fieldEq {field : Option Datum} (h : data.fieldEq field v = true) :
    Data.fieldOrder? field v = none ∨ Data.fieldOrder? field v = some .eq := by
  cases field with
  | none => exact Or.inl rfl
  | some d =>
    cases d with
    | value u => exact order?_of_strictEq h
    | whole => exact Or.inl rfl

theorem count_comparisons_le_one (data : Data) (field : Option Datum) (v : Value) :
    [data.fieldEq field v, Data.fieldOrder? field v == some .gt,
      Data.fieldOrder? field v == some .lt].count true ≤ 1 := by
  by_cases hequal : data.fieldEq field v = true
  · rcases Data.fieldOrder?_of_fieldEq hequal with horder | horder <;> rw [hequal, horder] <;> decide
  · rw [Bool.not_eq_true] at hequal
    rw [hequal]
    rcases Data.fieldOrder? field v with _ | _ | _ | _ <;> decide

theorem greater_eq_less_swapped (u v : Value) :
    (order? u v == some .gt) = (order? v u == some .lt) := by
  rw [order?_swap u v]
  rcases order? u v with _ | _ | _ | _ <;> rfl

/-- **Comparisons agree with one another.** Order is antisymmetric, equality excludes it, and so do the
clauses of conditions. -/
theorem comparisons_consistent :
    (∀ a b : Option Value, fieldsOrder? b a = (fieldsOrder? a b).map Ordering.swap) ∧
      (∀ a b : Option Value, fieldsEq a b = true →
        fieldsOrder? a b = none ∨ fieldsOrder? a b = some .eq) ∧
      (∀ (data : Data) (field : String) (v : Value), ∃ equal greater less : Bool,
        Clause.holds ⟨field, "equals", v⟩ data = .ok equal ∧
          Clause.holds ⟨field, "not_equals", v⟩ data = .ok (!equal) ∧
          Clause.holds ⟨field, "greater_than", v⟩ data = .ok greater ∧
          Clause.holds ⟨field, "less_than", v⟩ data = .ok less ∧
          [equal, greater, less].count true ≤ 1) ∧
      ∀ (data other : Data) (field name : String) (u v : Value),
        Entries.get? data field = some (.value u) → Entries.get? other name = some (.value v) →
          Clause.holds ⟨field, "greater_than", v⟩ data
            = Clause.holds ⟨name, "less_than", u⟩ other := by
  refine ⟨fieldsOrder?_swap, fun a b h => fieldsOrder?_of_fieldsEq h, ?clauses, ?swapped⟩
  case clauses =>
    intro data field v
    exact ⟨_, _, _, rfl, rfl, rfl, rfl, count_comparisons_le_one data _ v⟩
  case swapped =>
    intro data other field name u v hfield hname
    have hgreater : Clause.holds ⟨field, "greater_than", v⟩ data
        = .ok (Data.fieldOrder? (Entries.get? data field) v == some .gt) := rfl
    have hless : Clause.holds ⟨name, "less_than", u⟩ other
        = .ok (Data.fieldOrder? (Entries.get? other name) u == some .lt) := rfl
    rw [hgreater, hless, hfield, hname]
    exact congrArg Except.ok (greater_eq_less_swapped u v)

namespace Sample

/-- A field with a numeral, which is compared as a number with numbers alone. -/
def scored : Data := [("score", .value (.string " 1_0 "))]

def bounded : Data := [("bound", .value (.int 9))]

theorem numeral_above_bound :
    Entries.get? scored "score" = some (.value (.string " 1_0 ")) ∧
      Entries.get? bounded "bound" = some (.value (.int 9)) ∧
      Clause.holds ⟨"score", "greater_than", .int 9⟩ scored
        = Clause.holds ⟨"bound", "less_than", .string " 1_0 "⟩ bounded ∧
      Clause.holds ⟨"score", "greater_than", .int 9⟩ scored = .ok true := by
  obtain ⟨-, -, -, hswap⟩ := comparisons_consistent
  have hscore : Entries.get? scored "score" = some (.value (.string " 1_0 ")) := rfl
  have hbound : Entries.get? bounded "bound" = some (.value (.int 9)) := rfl
  exact ⟨hscore, hbound, hswap scored bounded "score" "bound" _ _ hscore hbound, by decide +kernel⟩

end Sample

end Runbook
