import Mathlib.Data.List.Forall2
import Mathlib.Data.List.Perm.Subperm
import Mathlib.Data.List.Zip
import Runbook.Proofs.Json.Writer
import Runbook.Proofs.Number
import Runbook.Value.Equality

/-!
# Strict equality

Two values are strictly equal when they are of one kind and equal as plain data, where a boolean counts as
a number, lists are compared item by item and objects name by name. What is not a number equals nothing at
the top; inside of lists and objects, where one and the same object needs no comparison, the one that JSON
texts share equals itself. Equality as plain data passes along without further ado; it can be turned around
where no object has two fields of one name. So strictly equal values can stand for each other wherever
something is compared with them.
-/

namespace Runbook

section Names

variable {α : Type} {fields others : Entries α}

theorem Entries.length_eq_of_keys_iff (hfields : (Entries.keys fields).Nodup)
    (hothers : (Entries.keys others).Nodup)
    (h : ∀ name, name ∈ Entries.keys fields ↔ name ∈ Entries.keys others) :
    fields.length = others.length := by
  have hperm : (Entries.keys fields).Perm (Entries.keys others) :=
    (List.perm_ext_iff_of_nodup hfields hothers).mpr h
  simpa [Entries.keys] using hperm.length_eq

theorem Entries.keys_iff_of_subset (hfields : (Entries.keys fields).Nodup)
    (hlength : fields.length = others.length)
    (hsubset : ∀ name ∈ Entries.keys fields, name ∈ Entries.keys others) (name : String) :
    name ∈ Entries.keys fields ↔ name ∈ Entries.keys others := by
  have hle : (Entries.keys others).length ≤ (Entries.keys fields).length := by
    simp [Entries.keys, hlength]
  have hperm : (Entries.keys fields).Perm (Entries.keys others) :=
    (List.subperm_of_subset hfields hsubset).perm_of_length_le hle
  exact hperm.mem_iff

end Names

namespace Value

@[elab_as_elim]
theorem induction {motive : Value → Prop} (null : motive .null) (bool : ∀ b, motive (.bool b))
    (number : ∀ n, motive (.number n)) (string : ∀ s, motive (.string s))
    (list : ∀ items, (∀ v ∈ items, motive v) → motive (.list items))
    (object : ∀ fields, (∀ field ∈ fields, motive field.2) → motive (.object fields)) :
    ∀ v, motive v
  | .null => null
  | .bool b => bool b
  | .number n => number n
  | .string s => string s
  | .list items => list items fun v _ => induction null bool number string list object v
  | .object fields =>
    object fields fun field _ => induction null bool number string list object field.2
termination_by v => sizeOf v
decreasing_by
  · decreasing_tactic
  · next hfield =>
    have hmem := List.sizeOf_lt_of_mem hfield
    have hsecond : sizeOf field.2 < sizeOf field := by
      rcases field with ⟨key, v⟩
      change sizeOf v < sizeOf (key, v)
      rw [Prod.mk.sizeOf_spec]
      omega
    rw [Value.object.sizeOf_spec]
    omega

/-- In no object, however deep, do two fields share a name. -/
inductive DistinctNames : Value → Prop where
  | null : DistinctNames .null
  | bool (b : Bool) : DistinctNames (.bool b)
  | number (n : Number) : DistinctNames (.number n)
  | string (s : String) : DistinctNames (.string s)
  | list {items : List Value} (h : ∀ v ∈ items, DistinctNames v) : DistinctNames (.list items)
  | object {fields : Fields} (hkeys : (Entries.keys fields).Nodup)
      (h : ∀ field ∈ fields, DistinctNames field.2) : DistinctNames (.object fields)

/-- Equality as plain data, as it is inside of lists and objects. -/
inductive PlainlyEqual : Value → Value → Prop where
  | null : PlainlyEqual .null .null
  | string (s : String) : PlainlyEqual (.string s) (.string s)
  | count {v w : Value} {m n : Number} (hv : v.count? = some m) (hw : w.count? = some n)
      (h : m.same n = true) : PlainlyEqual v w
  | list {vs ws : List Value} (hlength : vs.length = ws.length)
      (h : ∀ pair ∈ vs.zip ws, PlainlyEqual pair.1 pair.2) : PlainlyEqual (.list vs) (.list ws)
  | object {fs gs : Fields}
      (hnames : ∀ name, name ∈ Entries.keys fs ↔ name ∈ Entries.keys gs)
      (h : ∀ name v w, Entries.get? fs name = some v → Entries.get? gs name = some w →
        PlainlyEqual v w) : PlainlyEqual (.object fs) (.object gs)

inductive Kind where
  | null
  | boolean
  | number
  | text
  | list
  | object
deriving DecidableEq, Repr

def kind : Value → Kind
  | .null => .null
  | .bool _ => .boolean
  | .number _ => .number
  | .string _ => .text
  | .list _ => .list
  | .object _ => .object

variable {u v w : Value}

/-! ### Equality inside containers -/

theorem nestedEq_null_iff : nestedEq .null w = true ↔ w = .null := by
  cases w <;> simp [nestedEq]

theorem nestedEq_string_iff {s : String} : nestedEq (.string s) w = true ↔ w = .string s := by
  cases w <;> simp [nestedEq, @eq_comm _ s]

theorem nestedEq_count_iff {m : Number} (hv : v.count? = some m) :
    nestedEq v w = true ↔ ∃ n, w.count? = some n ∧ m.same n = true := by
  cases v with
  | bool b =>
    obtain rfl := Option.some.inj hv
    cases hw : w.count? <;> simp [nestedEq, hw]
  | number k =>
    obtain rfl := Option.some.inj hv
    cases hw : w.count? <;> simp [nestedEq, hw]
  | null => cases hv
  | string s => cases hv
  | list items => cases hv
  | object fields => cases hv

theorem nestedEq_nan_iff :
    nestedEq (.number (.double (.nan true))) w = true ↔ w = .number (.double (.nan true)) := by
  cases w <;> simp [nestedEq, count?, Number.nan_same_iff]

theorem nestedEqItems_iff {vs ws : List Value} :
    nestedEqItems vs ws = true ↔ List.Forall₂ (fun v w => nestedEq v w = true) vs ws := by
  induction vs generalizing ws with
  | nil => cases ws <;> simp [nestedEqItems]
  | cons v vs ih => cases ws <;> simp [nestedEqItems, ih]

theorem nestedEqFields_iff {fs gs : Fields} :
    nestedEqFields fs gs = true ↔
      ∀ field ∈ fs, ∃ b, Entries.get? gs field.1 = some b ∧ nestedEq field.2 b = true := by
  induction fs with
  | nil => simp [nestedEqFields]
  | cons field rest ih =>
    rw [nestedEqFields, Bool.and_eq_true, ih, List.forall_mem_cons]
    refine and_congr_left fun _ => ?_
    cases Entries.get? gs field.1 <;> simp

theorem nestedEq_list_iff {vs : List Value} :
    nestedEq (.list vs) w = true ↔
      ∃ ws, w = .list ws ∧ List.Forall₂ (fun v w => nestedEq v w = true) vs ws := by
  cases w <;> simp [nestedEq, nestedEqItems_iff]

theorem nestedEq_object_iff {fs : Fields} :
    nestedEq (.object fs) w = true ↔
      ∃ gs, w = .object gs ∧ fs.length = gs.length ∧
        ∀ field ∈ fs, ∃ b, Entries.get? gs field.1 = some b ∧ nestedEq field.2 b = true := by
  cases w <;> simp [nestedEq, nestedEqFields_iff]

theorem nestedEq_trans_of_count {m : Number} (hu : u.count? = some m) (huv : nestedEq u v = true)
    (hvw : nestedEq v w = true) : nestedEq u w = true := by
  obtain ⟨n, hv, hmn⟩ := (nestedEq_count_iff hu).mp huv
  obtain ⟨k, hw, hnk⟩ := (nestedEq_count_iff hv).mp hvw
  exact (nestedEq_count_iff hu).mpr ⟨k, hw, Number.same_trans hmn hnk⟩

theorem forall₂_trans {R : Value → Value → Prop} {us vs ws : List Value}
    (htrans : ∀ u ∈ us, ∀ v w, R u v → R v w → R u w) (huv : List.Forall₂ R us vs)
    (hvw : List.Forall₂ R vs ws) : List.Forall₂ R us ws := by
  induction huv generalizing ws with
  | nil => exact hvw
  | cons hhead _ ih =>
    obtain ⟨hfirst, hrest⟩ := List.forall_mem_cons.mp htrans
    cases hvw with
    | cons hhead' htail => exact .cons (hfirst _ _ hhead hhead') (ih hrest htail)

/-- Fields need not have distinct names here: what is found under a name is one of the fields. -/
theorem nestedEq_trans (huv : nestedEq u v = true) (hvw : nestedEq v w = true) :
    nestedEq u w = true := by
  induction u using Value.induction generalizing v w with
  | null =>
    obtain rfl := nestedEq_null_iff.mp huv
    exact hvw
  | bool b => exact nestedEq_trans_of_count rfl huv hvw
  | number n => exact nestedEq_trans_of_count rfl huv hvw
  | string s =>
    obtain rfl := nestedEq_string_iff.mp huv
    exact hvw
  | list us ih =>
    obtain ⟨vs, rfl, huv'⟩ := nestedEq_list_iff.mp huv
    obtain ⟨ws, rfl, hvw'⟩ := nestedEq_list_iff.mp hvw
    apply nestedEq_list_iff.mpr
    exact ⟨ws, rfl, forall₂_trans (fun u hu v w => ih u hu) huv' hvw'⟩
  | object fs ih =>
    obtain ⟨gs, rfl, hfg, hfields⟩ := nestedEq_object_iff.mp huv
    obtain ⟨hs, rfl, hgh, hothers⟩ := nestedEq_object_iff.mp hvw
    refine nestedEq_object_iff.mpr ⟨hs, rfl, hfg.trans hgh, fun field hfield => ?_⟩
    obtain ⟨b, hb, heq⟩ := hfields field hfield
    obtain ⟨c, hc, heq'⟩ := hothers _ (Entries.mem_of_get? hb)
    exact ⟨c, hc, ih field hfield heq heq'⟩

/-! ### Plain data -/

theorem plainlyEqual_list_iff {vs ws : List Value} :
    PlainlyEqual (.list vs) (.list ws) ↔ List.Forall₂ PlainlyEqual vs ws := by
  rw [List.forall₂_iff_zip]
  constructor
  · intro h
    cases h with
    | count hv => cases hv
    | list hlength h => exact ⟨hlength, fun hpair => h _ hpair⟩
  · rintro ⟨hlength, h⟩
    exact .list hlength fun pair hpair => h hpair

/-- With distinct names, objects of one length are equal when each field on the left has an equal. -/
theorem plainlyEqual_object_iff {fs gs : Fields} (hfs : (Entries.keys fs).Nodup)
    (hgs : (Entries.keys gs).Nodup) :
    PlainlyEqual (.object fs) (.object gs) ↔
      fs.length = gs.length ∧
        ∀ field ∈ fs, ∃ b, Entries.get? gs field.1 = some b ∧ PlainlyEqual field.2 b := by
  constructor
  · intro h
    cases h with
    | count hv => cases hv
    | object hnames h =>
      refine ⟨Entries.length_eq_of_keys_iff hfs hgs hnames, fun field hfield => ?_⟩
      have hkey : field.1 ∈ Entries.keys gs :=
        (hnames field.1).mp (List.mem_map.mpr ⟨field, hfield, rfl⟩)
      obtain ⟨b, hget⟩ := Entries.exists_get?_of_mem_keys hkey
      exact ⟨b, hget, h field.1 field.2 b (Entries.get?_of_mem hfs hfield) hget⟩
  · rintro ⟨hlength, h⟩
    refine .object (Entries.keys_iff_of_subset hfs hlength ?_) ?_
    · intro name hname
      obtain ⟨v, hget⟩ := Entries.exists_get?_of_mem_keys hname
      obtain ⟨b, hb, -⟩ := h _ (Entries.mem_of_get? hget)
      exact Entries.mem_keys_of_get? hb
    · intro name v w hv hw
      obtain ⟨b, hb, hequal⟩ := h _ (Entries.mem_of_get? hv)
      obtain rfl := Option.some.inj (hw.symm.trans hb)
      exact hequal

theorem nestedEq_count_iff_plainlyEqual {m : Number} (hv : v.count? = some m) :
    nestedEq v w = true ↔ PlainlyEqual v w := by
  rw [nestedEq_count_iff hv]
  constructor
  · rintro ⟨n, hw, h⟩
    exact .count hv hw h
  · intro h
    cases h with
    | count hv' hw h =>
      obtain rfl := Option.some.inj (hv.symm.trans hv')
      exact ⟨_, hw, h⟩
    | null => cases hv
    | string => cases hv
    | list => cases hv
    | object => cases hv

theorem nestedEq_iff_plainlyEqual (hv : v.DistinctNames) (hw : w.DistinctNames) :
    nestedEq v w = true ↔ PlainlyEqual v w := by
  induction hv generalizing w with
  | null =>
    rw [nestedEq_null_iff]
    constructor
    · rintro rfl
      exact .null
    · intro h
      cases h with
      | null => rfl
      | count hv => cases hv
  | bool b => exact nestedEq_count_iff_plainlyEqual rfl
  | number n => exact nestedEq_count_iff_plainlyEqual rfl
  | string s =>
    rw [nestedEq_string_iff]
    constructor
    · rintro rfl
      exact .string s
    · intro h
      cases h with
      | string => rfl
      | count hv => cases hv
  | @list vs _ ih =>
    have hitems : ∀ {ws : List Value}, (∀ w ∈ ws, w.DistinctNames) →
        (List.Forall₂ (fun v w => nestedEq v w = true) vs ws ↔ List.Forall₂ PlainlyEqual vs ws) := by
      intro ws hws
      rw [List.forall₂_iff_zip, List.forall₂_iff_zip]
      refine and_congr_right fun _ => forall_congr' fun a => forall_congr' fun b => ?_
      refine forall_congr' fun hpair => ?_
      obtain ⟨ha, hb⟩ := List.of_mem_zip hpair
      exact ih a ha (hws b hb)
    rw [nestedEq_list_iff]
    constructor
    · rintro ⟨ws, rfl, h⟩
      cases hw with
      | list hws => exact plainlyEqual_list_iff.mpr ((hitems hws).mp h)
    · intro h
      cases h with
      | count hv => cases hv
      | list hlength h =>
        cases hw with
        | list hws =>
          exact ⟨_, rfl, (hitems hws).mpr (plainlyEqual_list_iff.mp (.list hlength h))⟩
  | @object fs hfs _ ih =>
    rw [nestedEq_object_iff]
    constructor
    · rintro ⟨gs, rfl, hlength, h⟩
      cases hw with
      | object hgs hvalues =>
        refine (plainlyEqual_object_iff hfs hgs).mpr ⟨hlength, fun field hfield => ?_⟩
        obtain ⟨b, hget, hequal⟩ := h field hfield
        exact ⟨b, hget, (ih field hfield (hvalues _ (Entries.mem_of_get? hget))).mp hequal⟩
    · intro h
      obtain ⟨gs, rfl⟩ : ∃ gs, w = .object gs := by
        cases h with
        | count hv => cases hv
        | object => exact ⟨_, rfl⟩
      cases hw with
      | object hgs hvalues =>
        obtain ⟨hlength, hfields⟩ := (plainlyEqual_object_iff hfs hgs).mp h
        refine ⟨gs, rfl, hlength, fun field hfield => ?_⟩
        obtain ⟨b, hget, hequal⟩ := hfields field hfield
        exact ⟨b, hget, (ih field hfield (hvalues _ (Entries.mem_of_get? hget))).mpr hequal⟩

theorem PlainlyEqual.symm (h : PlainlyEqual v w) : PlainlyEqual w v := by
  induction h with
  | null => exact .null
  | string s => exact .string s
  | count hv hw h => exact .count hw hv (Number.same_symm h)
  | @list vs ws hlength _ ih =>
    refine .list hlength.symm fun pair hpair => ?_
    have hswap : pair.swap ∈ vs.zip ws := by
      rw [← List.zip_swap]
      exact List.mem_map_of_mem hpair
    exact ih _ hswap
  | object hnames _ ih =>
    exact .object (fun name => (hnames name).symm) fun name v w hv hw => ih name w v hw hv

theorem DoubleFree.plainlyEqual_self (h : v.DoubleFree) : PlainlyEqual v v := by
  induction v using Value.induction with
  | null => exact .null
  | bool b => exact .count rfl rfl (Number.same_of_eq (Number.int_eq_self _))
  | number n =>
    cases n with
    | int n => exact .count rfl rfl (Number.same_of_eq (Number.int_eq_self n))
    | double d => exact absurd h (not_doubleFree_double d)
  | string s => exact .string s
  | list items ih =>
    rw [plainlyEqual_list_iff, List.forall₂_same]
    exact fun v hv => ih v hv (doubleFree_list_iff.mp h v hv)
  | object fields ih =>
    refine .object (fun _ => Iff.rfl) fun name v w hv hw => ?_
    obtain rfl := Option.some.inj (hv.symm.trans hw)
    have hfield := Entries.mem_of_get? hv
    exact ih _ hfield (doubleFree_object_iff.mp h _ hfield)

theorem nestedEq_symm (hv : v.DistinctNames) (hw : w.DistinctNames) (h : nestedEq v w = true) :
    nestedEq w v = true :=
  (nestedEq_iff_plainlyEqual hw hv).mpr ((nestedEq_iff_plainlyEqual hv hw).mp h).symm

/-! ### Equality of kind and content -/

/-- At the top equality is the one inside containers, but for what is not a number. -/
theorem strictEq_iff_nestedEq :
    strictEq v w = true ↔
      v.kind = w.kind ∧ nestedEq v w = true ∧ v ≠ .number (.double (.nan true)) := by
  cases v with
  | null => cases w <;> simp [strictEq, kind, nestedEq]
  | bool a =>
    cases w with
    | bool b =>
      have hcounts : strictEq (.bool a) (.bool b) = nestedEq (.bool a) (.bool b) := by
        cases a <;> cases b <;> decide
      simp [hcounts, kind]
    | _ => simp [strictEq, kind]
  | number a => cases w <;> simp [strictEq, kind, nestedEq, count?, Number.eq_iff_same]
  | string s => cases w <;> simp [strictEq, kind, nestedEq]
  | list vs => cases w <;> simp [strictEq, kind]
  | object fs => cases w <;> simp [strictEq, kind]

example : strictEq (.list [.double (.nan true)]) (.list [.double (.nan true)]) = true ∧
    strictEq (.double (.nan true)) (.double (.nan true)) = false := by
  decide

theorem strictEq_trans (huv : strictEq u v = true) (hvw : strictEq v w = true) :
    strictEq u w = true := by
  rw [strictEq_iff_nestedEq] at huv hvw ⊢
  exact ⟨huv.1.trans hvw.1, nestedEq_trans huv.2.1 hvw.2.1, huv.2.2⟩

theorem strictEq_symm (hv : v.DistinctNames) (hw : w.DistinctNames) (h : strictEq v w = true) :
    strictEq w v = true := by
  rw [strictEq_iff_nestedEq] at h ⊢
  obtain ⟨hkind, hequal, hne⟩ := h
  refine ⟨hkind.symm, nestedEq_symm hv hw hequal, ?_⟩
  rintro rfl
  exact hne (nestedEq_nan_iff.mp (nestedEq_symm hv hw hequal))

/-- What is compared with one of two strictly equal values might be compared with the other. -/
theorem strictEq_congr_right (hv : v.DistinctNames) (hw : w.DistinctNames)
    (h : strictEq v w = true) (u : Value) : strictEq u v = strictEq u w := by
  rw [Bool.eq_iff_iff]
  exact ⟨fun huv => strictEq_trans huv h, fun huw => strictEq_trans huw (strictEq_symm hv hw h)⟩

end Value

end Runbook
