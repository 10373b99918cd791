import Mathlib.Data.List.Induction
import Mathlib.Logic.ExistsUnique
import Runbook.Transformation

/-!
# Grouping

Items are filed one by one, each at the end of the group with its name. What holds of the items filed so
far: the names of the groups are those of the items, in the order in which they first came, and a group
holds the items of its name in their order. So no item is lost, and none is in two groups.
-/

namespace Runbook

/-- Items in groups by name: the groups in the order of their first items, the items of a group in the
order in which they came. -/
structure IsPartition (name : Value → String) (items : List Value)
    (groups : Entries (List Value)) : Prop where
  keys : Entries.keys groups = (items.map name).eraseDups
  nodup : (Entries.keys groups).Nodup
  group : ∀ key group, Entries.get? groups key = some group →
    group ≠ [] ∧ group = items.filter fun item => name item = key
  perm : (groups.flatMap (·.2)).Perm items

/-- The name of the group of an item: that of the field's value, and that of null where the item is no
object or lacks the field. -/
def groupOf (field : String) (item : Value) : String :=
  groupKey (some ((item.field? field).getD .null))

theorem groupItems_eq_foldl (field : String) (items : List Value) :
    groupItems field items
      = items.foldl (fun groups item => addToGroup groups (groupOf field item) item) [] := by
  simp only [groupItems, groupOf, ← groupKey_eq_groupKey_getD]

section AddToGroup

variable {groups : Entries (List Value)}

/-- Filing an item adds it and nothing else to what the groups hold together. -/
theorem flatMap_addToGroup_perm (groups : Entries (List Value)) (key : String) (item : Value) :
    ((addToGroup groups key item).flatMap (·.2)).Perm (groups.flatMap (·.2) ++ [item]) := by
  induction groups with
  | nil => exact .refl _
  | cons entry rest ih =>
    unfold addToGroup at ih ⊢
    by_cases hkey : entry.1 = key
    · simp only [Entries.get?, Entries.put, if_pos hkey, Option.getD_some, List.flatMap_cons,
        List.append_assoc]
      exact .append_left _ List.perm_append_comm
    · simp only [Entries.get?, Entries.put, if_neg hkey, List.flatMap_cons, List.append_assoc]
      exact .append_left _ ih

theorem IsPartition.nil (name : Value → String) : IsPartition name [] [] where
  keys := rfl
  nodup := .nil
  group := by simp
  perm := .nil

theorem IsPartition.mem_keys_iff {name : Value → String} {items : List Value}
    (h : IsPartition name items groups) {key : String} :
    key ∈ Entries.keys groups ↔ ∃ item ∈ items, name item = key := by
  rw [h.keys, List.mem_eraseDups, List.mem_map]

/-- What is filed under a name so far is what has that name, whether the group is there or not. -/
theorem IsPartition.getD_get? {name : Value → String} {items : List Value}
    (h : IsPartition name items groups) (key : String) :
    (Entries.get? groups key).getD [] = items.filter fun item => name item = key := by
  cases hget : Entries.get? groups key with
  | some group => exact (h.group key group hget).2
  | none =>
    have hfresh : key ∉ Entries.keys groups := by
      rw [← Entries.get?_isSome_iff, hget]
      decide
    rw [Option.getD_none, eq_comm, List.filter_eq_nil_iff]
    intro item hitem
    rw [decide_eq_true_iff]
    exact fun hname => hfresh (h.mem_keys_iff.mpr ⟨item, hitem, hname⟩)

/-- One more item. -/
theorem IsPartition.addToGroup {name : Value → String} {items : List Value}
    (h : IsPartition name items groups) (item : Value) :
    IsPartition name (items ++ [item]) (addToGroup groups (name item) item) where
  keys := by
    rw [List.map_append]
    exact Entries.keys_put_eq_eraseDups h.keys (name item) _
  nodup := Entries.nodup_keys_put h.nodup (name item) _
  group key group hget := by
    rw [Runbook.addToGroup, h.getD_get?] at hget
    rw [List.filter_append]
    by_cases hkey : name item = key
    · subst hkey
      rw [Entries.get?_put_self, Option.some.injEq] at hget
      simp [← hget]
    · rw [Entries.get?_put_of_ne _ _ hkey] at hget
      obtain ⟨hne, hgroup⟩ := h.group key group hget
      exact ⟨hne, by simp [hkey, hgroup]⟩
  perm := (flatMap_addToGroup_perm groups (name item) item).trans (h.perm.append_right [item])

end AddToGroup

theorem groupItems_isPartition (field : String) (items : List Value) :
    IsPartition (groupOf field) items (groupItems field items) := by
  rw [groupItems_eq_foldl]
  induction items using List.reverseRecOn with
  | nil => exact .nil _
  | append_singleton items item ih =>
    rw [List.foldl_append, List.foldl_cons, List.foldl_nil]
    exact ih.addToGroup item

/-- Grouping keeps every item in exactly one group, and is what an aggregation by the field gives out. -/
theorem groupItems_partitions (field : String) (items : List Value) :
    IsPartition (groupOf field) items (groupItems field items) ∧
      (∀ item ∈ items, ∃! key, ∃ group,
        Entries.get? (groupItems field items) key = some group ∧ item ∈ group) ∧
      ∀ config : TransformationConfig, config.transformation = "aggregate" →
        config.groupBy = some field → field ≠ "" →
          config.apply (.value (.list items))
            = .ok (.value (.object (Entries.mapValues .list (groupItems field items)))) := by
  have hpartition := groupItems_isPartition field items
  refine ⟨hpartition, fun item hitem => ?_, fun config hkind hfield hne => ?_⟩
  · have hkey : groupOf field item ∈ Entries.keys (groupItems field items) :=
      hpartition.mem_keys_iff.mpr ⟨item, hitem, rfl⟩
    obtain ⟨group, hget⟩ := Option.isSome_iff_exists.mp ((Entries.get?_isSome_iff _ _).mpr hkey)
    refine ⟨groupOf field item, ⟨group, hget, ?_⟩, ?_⟩
    · rw [(hpartition.group _ _ hget).2]
      simpa using hitem
    · rintro key ⟨other, hother, hmem⟩
      rw [(hpartition.group _ _ hother).2] at hmem
      simpa [eq_comm] using (List.mem_filter.mp hmem).2
  · have hgiven : (config.groupBy.filter fun field => !field.isEmpty) = some field := by
      simp [hfield, hne]
    have haggregate : config.kind? = some .aggregate := by
      rw [TransformationConfig.kind?, hkind]
      rfl
    simp only [TransformationConfig.apply, haggregate, hgiven]
    rfl

namespace Sample

/-- Items with a number, its text, a boolean, nothing and no fields at all. -/
def tickets : List Value :=
  [.object [("team", .int 1)], .string "x", .object [("team", .string "1")], .object [],
    .object [("team", .bool true)]]

/-- A number meets its text, and what has no field meets what is no object. -/
example : Entries.keys (groupItems "team" tickets) = ["1", "null", "true"] := by
  rfl

def byTeam : TransformationConfig where
  transformation := "aggregate"
  source := none
  conditions := []
  mappings := []
  groupBy := some "team"
  replaceData := false

theorem tickets_partitioned :
    IsPartition (groupOf "team") tickets (groupItems "team" tickets) ∧
      (∃! key, ∃ group,
        Entries.get? (groupItems "team" tickets) key = some group ∧ .string "x" ∈ group) ∧
      byTeam.apply (.value (.list tickets))
        = .ok (.value (.object (Entries.mapValues .list (groupItems "team" tickets)))) := by
  obtain ⟨hpartition, hunique, happly⟩ := groupItems_partitions "team" tickets
  exact ⟨hpartition, hunique (.string "x") (by simp [tickets]), happly byTeam rfl rfl (by decide)⟩

end Sample

end Runbook
