import Runbook.Schema
import Mathlib.Data.List.Forall2

/-!
# What decoders report

A decoder keeps the issues of all parts, in order and under their names, and what it rejects has an issue
at least. So a value without issues is accepted, and the issues of a list are those of its items.
-/

namespace Runbook.Schema

/-- The issue, seen from further outside. -/
def Issue.within (path : List String) (issue : Issue) : Issue :=
  { issue with path := path ++ issue.path }

namespace Decoded

variable {α β : Type}

@[simp] theorem issues_valid (a : α) : (valid a).issues = [] := rfl

@[simp] theorem issues_invalid (issues : List Issue) :
    (invalid issues : Decoded α).issues = issues := rfl

@[simp] theorem issues_fail (problem : Problem) :
    (fail problem : Decoded α).issues = [⟨[], problem⟩] := rfl

@[simp] theorem issues_map (f : α → β) (x : Decoded α) : (x.map f).issues = x.issues := by
  cases x <;> rfl

@[simp] theorem issues_under (name : String) (x : Decoded α) :
    (x.under name).issues = x.issues.map (Issue.within [name]) := by
  cases x <;> rfl

@[simp] theorem issues_part (f : Decoded (α → β)) (x : Decoded α) :
    (f.part x).issues = f.issues ++ x.issues := by
  cases f <;> cases x <;> simp [part]

theorem part_eq_valid_iff {f : Decoded (α → β)} {x : Decoded α} {b : β} :
    f.part x = .valid b ↔ ∃ g a, f = .valid g ∧ x = .valid a ∧ g a = b := by
  cases f <;> cases x <;> simp [part]

theorem map_eq_valid_iff {f : α → β} {x : Decoded α} {b : β} :
    x.map f = .valid b ↔ ∃ a, x = .valid a ∧ f a = b := by
  cases x <;> simp [map]

@[simp] theorem under_eq_valid_iff {name : String} {x : Decoded α} {a : α} :
    x.under name = .valid a ↔ x = .valid a := by
  cases x <;> simp [under]

theorem andThen_eq_of_issues {x : Decoded α} (h : x.issues ≠ []) (f : α → Decoded β) :
    x.andThen f = .invalid x.issues := by
  cases x with
  | valid a => exact absurd rfl h
  | invalid issues => rfl

/-! ### Every rejection has a reason -/

/-- A value that is rejected is rejected for something. -/
def Explained (x : Decoded α) : Prop := x ≠ .invalid []

theorem Explained.exists_valid {x : Decoded α} (h : x.Explained) (hissues : x.issues = []) :
    ∃ a, x = .valid a := by
  cases x with
  | valid a => exact ⟨a, rfl⟩
  | invalid issues =>
    obtain rfl : issues = [] := hissues
    exact absurd rfl h

@[simp] theorem explained_valid (a : α) : (valid a).Explained := nofun

@[simp] theorem explained_fail (problem : Problem) : (fail problem : Decoded α).Explained := nofun

@[simp] theorem explained_invalid_cons (issue : Issue) (issues : List Issue) :
    (invalid (issue :: issues) : Decoded α).Explained := nofun

theorem Explained.map {x : Decoded α} (h : x.Explained) (f : α → β) :
    (x.map f).Explained := by
  cases x with
  | valid a => exact explained_valid _
  | invalid issues =>
    intro hempty
    exact h (congrArg invalid (invalid.inj hempty))

theorem Explained.under {x : Decoded α} (h : x.Explained) (name : String) :
    (x.under name).Explained := by
  cases x with
  | valid a => exact explained_valid a
  | invalid issues =>
    intro hempty
    exact h (congrArg invalid (List.map_eq_nil_iff.mp (invalid.inj hempty)))

theorem Explained.part {f : Decoded (α → β)} {x : Decoded α} (hf : f.Explained)
    (hx : x.Explained) : (f.part x).Explained := by
  intro hempty
  have hnone : f.issues ++ x.issues = [] := by rw [← issues_part, hempty, issues_invalid]
  obtain ⟨hf', hx'⟩ := List.append_eq_nil_iff.mp hnone
  obtain ⟨g, rfl⟩ := hf.exists_valid hf'
  obtain ⟨a, rfl⟩ := hx.exists_valid hx'
  cases hempty

theorem Explained.andThen {x : Decoded α} {f : α → Decoded β} (hx : x.Explained)
    (hf : ∀ a, (f a).Explained) : (x.andThen f).Explained := by
  cases x with
  | valid a => exact hf a
  | invalid issues =>
    intro hempty
    exact hx (congrArg invalid (invalid.inj hempty))

end Decoded

open Decoded

/-- A decoder that rejects nothing without a reason. -/
def Explains {α : Type} (decode : Decoder α) : Prop :=
  ∀ v, (decode v).Explained

section Explains

variable {α : Type} {decode : Decoder α}

theorem explained_required (h : Explains decode) {fields : Value.Fields} {names : List String} :
    (required fields names decode).Explained := by
  unfold required
  cases findNamed fields names with
  | none => exact explained_invalid_cons _ _
  | some found => exact (h found.2).under found.1

theorem explained_optional (h : Explains decode) {fields : Value.Fields} {names : List String}
    {default : α} : (optional fields names default decode).Explained := by
  unfold optional
  cases findNamed fields names with
  | none => exact explained_valid default
  | some found => exact (h found.2).under found.1

theorem explained_reading (s : String) {read : Decoded α} (h : read.Explained) :
    (reading s read).Explained := by
  unfold reading
  split
  · exact h
  · exact explained_fail .notUnicode

theorem explains_anything : Explains anything := fun v => explained_valid v

theorem explains_text : Explains text := by
  intro v
  cases v <;> simp [text]

theorem explains_nonEmptyText : Explains nonEmptyText := by
  intro v
  cases v with
  | string s =>
    refine explained_reading s ?_
    split <;> simp
  | _ => exact explained_fail .notText

theorem explains_number : Explains number := by
  intro v
  unfold number
  split
  · simp
  · split <;> simp
  · simp
  · refine explained_reading _ ?_
    split <;> simp
  · simp

theorem explains_positiveNumber : Explains positiveNumber := by
  intro v
  refine (explains_number v).andThen fun d => ?_
  split
  · split <;> simp
  · simp
  · simp

theorem explained_booleanOfInt (n : Int) : (booleanOfInt n).Explained := by
  unfold booleanOfInt
  split
  · simp
  · split <;> simp

theorem explains_boolean : Explains boolean := by
  intro v
  unfold boolean
  split
  · simp
  · refine explained_reading _ ?_
    split <;> simp
  · split
    · exact explained_booleanOfInt _
    · simp
  · split
    · split
      · exact explained_booleanOfInt _
      · simp
    · simp
  · simp

theorem explains_nullable (h : Explains decode) : Explains (nullable decode) := by
  intro v
  cases v with
  | null => exact explained_valid none
  | _ => exact (h _).map some

theorem explained_itemsFrom (h : Explains decode) (position : Nat) (items : List Value) :
    (itemsFrom decode position items).Explained := by
  induction items generalizing position with
  | nil => exact explained_valid []
  | cons v rest ih => exact (((h v).under _).map _).part (ih (position + 1))

theorem explains_list (h : Explains decode) : Explains (list decode) := by
  intro v
  cases v with
  | list items => exact explained_itemsFrom h 0 items
  | _ => exact explained_fail _

theorem explained_entriesOf (h : Explains decode) (fields : Value.Fields) :
    (entriesOf decode fields).Explained := by
  induction fields with
  | nil => exact explained_valid []
  | cons entry rest ih => exact (((h entry.2).under _).map _).part ih

theorem explains_entries (h : Explains decode) : Explains (entries decode) := by
  intro v
  cases v with
  | object fields => exact explained_entriesOf h fields
  | _ => exact explained_fail _

theorem explains_model {decodeFields : Value.Fields → Decoded α} (name : String)
    (h : ∀ fields, (decodeFields fields).Explained) : Explains (model name decodeFields) := by
  intro v
  cases v with
  | object fields => exact h fields
  | _ => exact explained_fail _

end Explains

/-! ### Fields of one name -/

section Single

variable {α : Type}

theorem required_single (fields : Value.Fields) (name : String) (decode : Decoder α) :
    required fields [name] decode = match Entries.get? fields name with
      | some v => (decode v).under name
      | none => .invalid [⟨[name], .missing⟩] := by
  unfold required findNamed
  cases Entries.get? fields name <;> rfl

theorem optional_single (fields : Value.Fields) (name : String) (default : α)
    (decode : Decoder α) :
    optional fields [name] default decode = match Entries.get? fields name with
      | some v => (decode v).under name
      | none => .valid default := by
  unfold optional findNamed
  cases Entries.get? fields name <;> rfl

/-- A decoder that only speaks of the value as a whole. -/
def Flat (decode : Decoder α) : Prop :=
  ∀ v, ∀ issue ∈ (decode v).issues, issue.path = []

theorem flat_text : Flat text := by
  intro v
  cases v <;> simp [text]

theorem flat_nonEmptyText : Flat nonEmptyText := by
  intro v
  cases v with
  | string s =>
    simp only [nonEmptyText, reading]
    split
    · split <;> simp
    · simp
  | _ => simp [nonEmptyText]

variable {decode : Decoder α}

theorem Flat.nullable (h : Flat decode) : Flat (nullable decode) := by
  intro v issue hissue
  cases v with
  | null => simp [Schema.nullable] at hissue
  | _ => exact h _ issue (by simpa [Schema.nullable] using hissue)

theorem Flat.path_of_under (h : Flat decode) {v : Value} {name : String} {issue : Issue}
    (hissue : issue ∈ ((decode v).under name).issues) : issue.path = [name] := by
  rw [issues_under, List.mem_map] at hissue
  obtain ⟨inner, hinner, rfl⟩ := hissue
  simp [Issue.within, h v inner hinner]

theorem Flat.path_of_required (h : Flat decode) {fields : Value.Fields} {name : String}
    {issue : Issue} (hissue : issue ∈ (required fields [name] decode).issues) :
    issue.path = [name] := by
  rw [required_single] at hissue
  split at hissue
  · exact h.path_of_under hissue
  · rw [List.mem_singleton.mp hissue]

theorem Flat.path_of_optional (h : Flat decode) {fields : Value.Fields} {name : String}
    {default : α} {issue : Issue} (hissue : issue ∈ (optional fields [name] default decode).issues) :
    issue.path = [name] := by
  rw [optional_single] at hissue
  split at hissue
  · exact h.path_of_under hissue
  · cases hissue

end Single

/-! ### Lists -/

section Items

variable {α : Type} {decode : Decoder α}

theorem issues_itemsFrom (decode : Decoder α) (position : Nat) (items : List Value) :
    (itemsFrom decode position items).issues = (items.zipIdx position).flatMap fun entry =>
      (decode entry.1).issues.map (Issue.within [toString entry.2]) := by
  induction items generalizing position with
  | nil => rfl
  | cons v rest ih => simp [itemsFrom, ih]

theorem forall₂_of_itemsFrom {position : Nat} {items : List Value} {decoded : List α}
    (h : itemsFrom decode position items = .valid decoded) :
    List.Forall₂ (fun v a => decode v = .valid a) items decoded := by
  induction items generalizing position decoded with
  | nil =>
    obtain rfl : [] = decoded := Decoded.valid.inj h
    exact .nil
  | cons v rest ih =>
    obtain ⟨g, others, hfirst, hrest, rfl⟩ := part_eq_valid_iff.mp h
    obtain ⟨a, hv, rfl⟩ := map_eq_valid_iff.mp hfirst
    exact .cons (under_eq_valid_iff.mp hv) (ih hrest)

end Items

end Runbook.Schema
