import Runbook.Definition.Decoding

/-!
# Step ids of parsed definitions

The parser compares the step ids when all else is right, so a definition that it accepts names no step
twice.
-/

namespace Runbook

theorem firstRepeated?_eq_none {seen ids : List String} (h : firstRepeated? seen ids = none) :
    ids.Nodup ∧ ∀ id ∈ ids, id ∉ seen := by
  induction ids generalizing seen with
  | nil => simp
  | cons id rest ih =>
    unfold firstRepeated? at h
    split at h
    · cases h
    · next hfresh =>
      obtain ⟨hrest, hunseen⟩ := ih h
      refine ⟨List.nodup_cons.mpr ⟨fun hid => hunseen id hid List.mem_cons_self, hrest⟩, ?_⟩
      rw [List.forall_mem_cons]
      exact ⟨by simpa using hfresh, fun other hother hseen =>
        hunseen other hother (List.mem_cons_of_mem _ hseen)⟩

/-- The id that is found repeats an earlier one, and nothing before it does. -/
theorem firstRepeated?_eq_some {seen ids : List String} {id : String}
    (h : firstRepeated? seen ids = some id) :
    ∃ before after, ids = before ++ id :: after ∧ (id ∈ seen ∨ id ∈ before) ∧ before.Nodup ∧
      ∀ other ∈ before, other ∉ seen := by
  induction ids generalizing seen with
  | nil => cases h
  | cons first rest ih =>
    unfold firstRepeated? at h
    split at h
    · next hseen =>
      obtain rfl := Option.some.inj h
      exact ⟨[], rest, rfl, Or.inl (by simpa using hseen), List.nodup_nil, by simp⟩
    · next hfresh =>
      have hfresh : first ∉ seen := by simpa using hfresh
      obtain ⟨before, after, rfl, hid, hnodup, hunseen⟩ := ih h
      refine ⟨first :: before, after, rfl, ?_, ?_, ?_⟩
      · rcases hid with hid | hid
        · rcases List.mem_cons.mp hid with rfl | hid
          · exact Or.inr List.mem_cons_self
          · exact Or.inl hid
        · exact Or.inr (List.mem_cons_of_mem _ hid)
      · exact List.nodup_cons.mpr
          ⟨fun hmem => hunseen first hmem List.mem_cons_self, hnodup⟩
      · rw [List.forall_mem_cons]
        exact ⟨hfresh, fun other hother hseen =>
          hunseen other hother (List.mem_cons_of_mem _ hseen)⟩

/-- Definitions as the parser gives them out. -/
def Definition.Parsed (definition : Definition) : Prop :=
  ∃ v, Definition.parse v = .ok definition

theorem Definition.Parsed.nodup_ids {definition : Definition} (h : definition.Parsed) :
    (definition.steps.map (·.id)).Nodup := by
  obtain ⟨v, hparse⟩ := h
  unfold Definition.parse Definition.decode Schema.Decoded.andThen at hparse
  cases hfields : Definition.decodeFields v with
  | invalid issues => simp [hfields] at hparse
  | valid read =>
    cases hrepeated : firstRepeated? [] (read.steps.map (·.id)) with
    | some id => simp [hfields, Definition.checkIds, hrepeated, Schema.Decoded.fail] at hparse
    | none =>
      obtain rfl : read = definition := by
        simpa [hfields, Definition.checkIds, hrepeated] using hparse
      exact (firstRepeated?_eq_none hrepeated).1

/-! ### A sample -/

namespace Sample

/-- A condition without clauses. -/
def check (id : String) (dependencies : List String) : Step where
  id := id
  name := none
  dependencies := dependencies
  timeout := none
  config := .condition { conditions := [], operator := "AND" }

/-- Two checks, declared against their order. -/
def definition : Definition where
  id := "checks"
  name := none
  steps := [check "second" ["first"], check "first" []]

theorem definition_parsed : definition.Parsed := ⟨definition.toValue, rfl⟩

end Sample

end Runbook
