import Runbook.Proofs.Text.Code
import Runbook.Store.Column

/-!
# What columns take

A text that UTF-8 has a form for is kept as it is. A column may refuse a value in a way that the database
tells as a failure, or fail on the value before the database has it; whole numbers beyond 64 bits and
texts without a form in UTF-8 are the values that the second happens with.
-/

namespace Runbook.Store

theorem encoded_of_isEncodable {s : String} (h : Text.isEncodable s = true) : encoded s = .ok s := by
  rw [encoded, Text.utf8Complaint?_eq_none_iff.mpr h]

theorem exists_encoded_of_not_isEncodable {s : String} (h : Text.isEncodable s = false) :
    ∃ complaint, encoded s = .error (.notUtf8 complaint) := by
  have hsome : Text.utf8Complaint? s ≠ none := by
    rw [Ne, Text.utf8Complaint?_eq_none_iff, h]
    decide
  obtain ⟨complaint, hcomplaint⟩ := Option.ne_none_iff_exists'.mp hsome
  exact ⟨complaint, by rw [encoded, hcomplaint]⟩

theorem text_of_isEncodable {s : String} (h : Text.isEncodable s = true) (column : String)
    (default : Option String) : text column default (.string s) = .ok s := by
  simp [text, optionalText, encoded_of_isEncodable h, Except.map]

/-- Whether a refusal is told as a failure to record. The driver's failures to take a value are not. -/
def ColumnFault.isRecorded : ColumnFault → Bool
  | .tooLarge => false
  | .notUtf8 _ => false
  | _ => true

/-- A column takes its value or refuses it in a way that is told as a failure to record. -/
def Takes {α : Type} (result : Except ColumnFault α) : Prop :=
  ∀ fault, result = .error fault → fault.isRecorded = true

section Takes

variable {α : Type}

theorem takes_ok (a : α) : Takes (.ok a) := by
  rintro fault ⟨⟩

theorem takes_error {fault : ColumnFault} (h : fault.isRecorded = true) :
    Takes (.error fault : Except ColumnFault α) := by
  rintro other ⟨⟩
  exact h

theorem mem_of_first? {faults : List ColumnFault} {fault : ColumnFault}
    (h : ColumnFault.first? faults = some fault) : fault ∈ faults := by
  obtain ⟨stage, -, hfound⟩ := List.exists_of_findSome?_eq_some h
  exact List.mem_of_find?_eq_some hfound

theorem isRecorded_of_mem_faultOf {result : Except ColumnFault α} (h : Takes result) :
    ∀ fault ∈ faultOf result, fault.isRecorded = true := by
  cases result with
  | ok a => simp [faultOf]
  | error fault => simpa [faultOf] using h fault rfl

theorem takes_checkAll {faults : List (List ColumnFault)}
    (h : ∀ column ∈ faults, ∀ fault ∈ column, fault.isRecorded = true) : Takes (checkAll faults) := by
  unfold checkAll
  split
  · next fault hfirst =>
    obtain ⟨column, hcolumn, hmem⟩ := List.mem_flatten.mp (mem_of_first? hfirst)
    exact takes_error (h column hcolumn fault hmem)
  · exact takes_ok ()

end Takes

/-- The value is neither a whole number of more than 64 bits nor a text without a form in UTF-8. -/
def FitsColumn : Value → Prop
  | .number (.int n) => fitsColumn n = true
  | .string s => Text.isEncodable s = true
  | _ => True

instance : DecidablePred FitsColumn
  | .number (.int n) => inferInstanceAs (Decidable (fitsColumn n = true))
  | .string s => inferInstanceAs (Decidable (Text.isEncodable s = true))
  | .null | .bool _ | .number (.double _) | .list _ | .object _ => .isTrue trivial

section Columns

variable {v : Value} (hfits : FitsColumn v) (name : String)
include hfits

theorem takes_optionalText : Takes (optionalText name v) := by
  unfold optionalText
  split
  case h_2 s =>
    rw [encoded_of_isEncodable hfits]
    exact takes_ok _
  case h_4 n =>
    rw [if_pos (show fitsColumn n = true from hfits)]
    exact takes_ok _
  case h_7 => exact takes_error rfl
  all_goals exact takes_ok _

theorem takes_text (default : Option String) : Takes (text name default v) := by
  have htext := takes_optionalText hfits name
  unfold text
  split
  · exact takes_ok _
  · split
    · exact takes_ok _
    · exact takes_error rfl
    · next fault hfault => exact takes_error (htext fault hfault)

theorem takes_integer : Takes (integer name v) := by
  unfold integer
  split
  case h_3 n =>
    rw [if_pos (show fitsColumn n = true from hfits)]
    exact takes_ok _
  case h_4 => exact takes_error rfl
  case h_6 s =>
    rw [encoded_of_isEncodable hfits]
    exact takes_ok _
  case h_7 => exact takes_error rfl
  all_goals exact takes_ok _

end Columns

end Runbook.Store
