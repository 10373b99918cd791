import Mathlib.Data.List.Forall2
import Mathlib.Data.List.Induction
import Runbook.Transformation

/-!
# Mapping

An item becomes a row: each mapping whose source the item has sets its target. Where several mappings
have one target, the last of those whose source is there supplies the value, while the first of them
fixes the place. Mappings whose source is not there count for nothing, whatever their place.
-/

namespace Runbook

/-- The item is an object that has the source. -/
def FieldMapping.AppliesTo (mapping : FieldMapping) (item : Value) : Prop :=
  ∃ fields, item = .object fields ∧ mapping.source ∈ Entries.keys fields

theorem FieldMapping.appliesTo_iff {mapping : FieldMapping} {item : Value} :
    mapping.AppliesTo item ↔ (item.field? mapping.source).isSome = true := by
  cases item with
  | object fields => simp [AppliesTo, Value.field?, Entries.get?_isSome_iff]
  | _ => simp [AppliesTo, Value.field?]

instance (mapping : FieldMapping) (item : Value) : Decidable (mapping.AppliesTo item) :=
  decidable_of_iff _ FieldMapping.appliesTo_iff.symm

/-- The mappings that apply to an item, in order. -/
def applicable (mappings : List FieldMapping) (item : Value) : List FieldMapping :=
  mappings.filter fun mapping => mapping.AppliesTo item

/-- The row that mappings make of an item: targets in the order of their first mappings, each with the
source of its last one. Only mappings that apply to the item count. -/
structure IsRow (mappings : List FieldMapping) (item : Value) (row : Value.Fields) : Prop where
  keys : Entries.keys row = ((applicable mappings item).map (·.target)).eraseDups
  value : ∀ target, Entries.get? row target
    = ((applicable mappings item).filter (·.target = target)).getLast?.bind fun mapping =>
        item.field? mapping.source

variable {mappings : List FieldMapping} {item : Value} {row : Value.Fields}

theorem IsRow.nil (item : Value) : IsRow [] item [] where
  keys := rfl
  value _ := rfl

theorem applicable_concat (mappings : List FieldMapping) (mapping : FieldMapping) (item : Value) :
    applicable (mappings ++ [mapping]) item
      = if mapping.AppliesTo item then applicable mappings item ++ [mapping]
        else applicable mappings item := by
  by_cases happlies : mapping.AppliesTo item <;> simp [applicable, happlies]

/-- A mapping whose source is not there. -/
theorem IsRow.skip (h : IsRow mappings item row) {mapping : FieldMapping}
    (hsource : item.field? mapping.source = none) : IsRow (mappings ++ [mapping]) item row := by
  have hskipped : applicable (mappings ++ [mapping]) item = applicable mappings item := by
    rw [applicable_concat, if_neg]
    simp [FieldMapping.appliesTo_iff, hsource]
  constructor
  · rw [hskipped]
    exact h.keys
  · rw [hskipped]
    exact h.value

/-- A mapping whose source is there. -/
theorem IsRow.put (h : IsRow mappings item row) {mapping : FieldMapping} {v : Value}
    (hsource : item.field? mapping.source = some v) :
    IsRow (mappings ++ [mapping]) item (Entries.put row mapping.target v) := by
  have happlied : applicable (mappings ++ [mapping]) item = applicable mappings item ++ [mapping] := by
    rw [applicable_concat, if_pos]
    simp [FieldMapping.appliesTo_iff, hsource]
  constructor
  · rw [happlied, List.map_append]
    exact Entries.keys_put_eq_eraseDups h.keys mapping.target v
  · intro target
    rw [happlied, List.filter_append]
    by_cases htarget : mapping.target = target
    · subst htarget
      simp [Entries.get?_put_self, hsource]
    · rw [Entries.get?_put_of_ne _ _ htarget, h.value]
      simp [htarget]

theorem mapItem_isRow (mappings : List FieldMapping) (item : Value) :
    IsRow mappings item (mapItem mappings item) := by
  induction mappings using List.reverseRecOn with
  | nil => exact .nil item
  | append_singleton mappings mapping ih =>
    rw [mapItem, List.foldl_append, List.foldl_cons, List.foldl_nil]
    cases hsource : item.field? mapping.source with
    | none => exact ih.skip hsource
    | some v => exact ih.put hsource

theorem IsRow.mem_keys_iff (h : IsRow mappings item row) {target : String} :
    target ∈ Entries.keys row ↔
      ∃ mapping ∈ mappings, mapping.target = target ∧ mapping.AppliesTo item := by
  rw [h.keys, List.mem_eraseDups, List.mem_map]
  simp only [applicable, List.mem_filter, decide_eq_true_eq]
  constructor
  · rintro ⟨mapping, ⟨hmapping, happlies⟩, htarget⟩
    exact ⟨mapping, hmapping, htarget, happlies⟩
  · rintro ⟨mapping, hmapping, htarget, happlies⟩
    exact ⟨mapping, ⟨hmapping, happlies⟩, htarget⟩

theorem IsRow.eq_nil (h : IsRow mappings item row) (hitem : ∀ fields, item ≠ .object fields) :
    row = [] := by
  have hkeys : ∀ target, target ∉ Entries.keys row := by
    intro target htarget
    obtain ⟨_, _, _, fields, hobject, _⟩ := h.mem_keys_iff.mp htarget
    exact hitem fields hobject
  exact List.map_eq_nil_iff.mp (List.eq_nil_iff_forall_not_mem.mpr hkeys)

/-- Mapping gives one row for each item, in order. -/
theorem mapItems_rows (mappings : List FieldMapping) (items : List Value) :
    List.Forall₂ (fun item result => ∃ row, result = .object row ∧ IsRow mappings item row ∧
        (∀ target, target ∈ Entries.keys row ↔
          ∃ mapping ∈ mappings, mapping.target = target ∧ mapping.AppliesTo item) ∧
        ((∀ fields, item ≠ .object fields) → row = []))
      items (mapItems mappings items) := by
  rw [mapItems, List.forall₂_map_right_iff, List.forall₂_same]
  intro item _
  have hrow := mapItem_isRow mappings item
  exact ⟨mapItem mappings item, rfl, hrow, fun target => hrow.mem_keys_iff, hrow.eq_nil⟩

namespace Sample

/-- Two mappings to one target, around another one. -/
def labels : List FieldMapping := [⟨"name", "label"⟩, ⟨"score", "points"⟩, ⟨"alias", "label"⟩]

/-- An item with all their sources. -/
def ranked : Value := .object [("alias", .string "z"), ("score", .int 1), ("name", .string "a")]

/-- The later mapping supplies the label, the earlier one its place. -/
example : mapItem labels ranked = [("label", .string "z"), ("points", .int 1)] := by
  rfl

/-- What is no object makes an empty row, and the object a row in which the label stands once. -/
theorem text_and_ranked_mapped_to_rows :
    (∀ fields, Value.string "x" ≠ .object fields) ∧
      ∃ row labelled, mapItems labels [.string "x", ranked] = [.object row, .object labelled] ∧
        IsRow labels (.string "x") row ∧ row = [] ∧ IsRow labels ranked labelled ∧
        Entries.keys labelled = ["label", "points"] ∧
        Entries.get? labelled "label" = some (.string "z") := by
  have hitem : ∀ fields, Value.string "x" ≠ .object fields := nofun
  cases mapItems_rows labels [.string "x", ranked] with
  | cons hfirst hrest =>
    cases hrest with
    | cons hsecond _ =>
      obtain ⟨row, hresult, hisRow, _, hempty⟩ := hfirst
      obtain ⟨labelled, hresult', hisRow', -⟩ := hsecond
      have hrows : mapItems labels [.string "x", ranked] = [.object row, .object labelled] := by
        simp only [mapItems, List.map_cons, List.map_nil, hresult, hresult']
      exact ⟨hitem, row, labelled, hrows, hisRow, hempty hitem, hisRow',
        hisRow'.keys.trans (by decide), (hisRow'.value "label").trans rfl⟩

end Sample

end Runbook
