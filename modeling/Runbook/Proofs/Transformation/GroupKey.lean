import Runbook.Proofs.Json.Writer
import Runbook.Transformation

/-!
# The names of groups

A text names its group itself, any other value by its compact JSON text. Values without floating-point
numbers share a JSON text only if they differ by nothing but surrogates that make up a code point, since
the text does not tell whether these stood alone. So the values of one group are alike in this sense, or
they are a value and its spelled-out text.
-/

namespace Runbook

/-- The values of one group: a text is there with itself, any other value with those that are alike once
joined and with its compact JSON text. -/
inductive SameGroup : Value → Value → Prop where
  | text (s : String) : SameGroup (.string s) (.string s)
  | alike {v w : Value} (hv : ∀ s, v ≠ .string s) (hw : ∀ s, w ≠ .string s)
      (hjoined : v.joined = w.joined) : SameGroup v w
  | spelled {v : Value} (hv : ∀ s, v ≠ .string s) : SameGroup (.string (Json.write Json.compact v)) v
  | spelling {v : Value} (hv : ∀ s, v ≠ .string s) : SameGroup v (.string (Json.write Json.compact v))

theorem groupKey_of_not_text {v : Value} (hv : ∀ s, v ≠ .string s) :
    groupKey (some v) = Json.write Json.compact v := by
  cases v with
  | string s => exact absurd rfl (hv s)
  | _ => rfl

theorem SameGroup.groupKey_eq {v w : Value} (hv : v.DoubleFree) (hw : w.DoubleFree)
    (h : SameGroup v w) : groupKey (some v) = groupKey (some w) := by
  cases h with
  | text => rfl
  | alike hvText hwText hjoined =>
    rw [groupKey_of_not_text hvText, groupKey_of_not_text hwText]
    exact (Json.write_eq_iff rfl Json.compact_usesComma hv hw).mpr hjoined
  | spelled hvText => exact (groupKey_of_not_text hvText).symm
  | spelling hvText => exact groupKey_of_not_text hvText

theorem sameGroup_of_groupKey_eq {v w : Value} (hv : v.DoubleFree) (hw : w.DoubleFree)
    (h : groupKey (some v) = groupKey (some w)) : SameGroup v w := by
  by_cases hvText : ∃ s, v = .string s
  · obtain ⟨s, rfl⟩ := hvText
    by_cases hwText : ∃ t, w = .string t
    · obtain ⟨t, rfl⟩ := hwText
      obtain rfl : s = t := h
      exact .text _
    · rw [not_exists] at hwText
      rw [groupKey_of_not_text hwText] at h
      obtain rfl : s = Json.write Json.compact w := h
      exact .spelled hwText
  · rw [not_exists] at hvText
    rw [groupKey_of_not_text hvText] at h
    by_cases hwText : ∃ t, w = .string t
    · obtain ⟨t, rfl⟩ := hwText
      obtain rfl : Json.write Json.compact v = t := h
      exact .spelling hvText
    · rw [not_exists] at hwText
      rw [groupKey_of_not_text hwText] at h
      exact .alike hvText hwText ((Json.write_eq_iff rfl Json.compact_usesComma hv hw).mp h)

/-- Group names keep values apart, but for surrogates that make up a code point and for a text that
spells out another value. -/
theorem groupKey_eq_iff_sameGroup {v w : Option Value} (hv : (v.getD .null).DoubleFree)
    (hw : (w.getD .null).DoubleFree) :
    groupKey v = groupKey w ↔ SameGroup (v.getD .null) (w.getD .null) := by
  rw [groupKey_eq_groupKey_getD v, groupKey_eq_groupKey_getD w]
  exact ⟨sameGroup_of_groupKey_eq hv hw, SameGroup.groupKey_eq hv hw⟩

namespace Sample

def mixedList : Value := .list [.int 1, .bool true, .string "é😀"]

def mixedText : String := "[1,true,\"\\u00e9\\ud83d\\ude00\"]"

/-- A list meets its text in one group and what is missing meets its word, while true and 1 are kept
apart. -/
theorem mixedList_grouped_with_text :
    mixedList.DoubleFree ∧ groupKey (some mixedList) = groupKey (some (.string mixedText)) ∧
      groupKey none = groupKey (some (.string "null")) ∧
      groupKey (some (.bool true)) ≠ groupKey (some (.int 1)) := by
  have hlist : mixedList.DoubleFree := by simp [mixedList]
  have hspelling : SameGroup mixedList (.string mixedText) := by
    refine .spelling ?_
    rintro s ⟨⟩
  have hnull : SameGroup .null (.string "null") := by
    refine .spelling ?_
    rintro s ⟨⟩
  have hapart : ¬ SameGroup (.bool true) (.int 1) := by
    rintro (_ | ⟨-, -, hjoined⟩)
    cases hjoined
  refine ⟨hlist, ?_, ?_, fun h => hapart ?_⟩
  · exact (groupKey_eq_iff_sameGroup (v := some _) (w := some _) hlist
      (Value.doubleFree_string _)).mpr hspelling
  · exact (groupKey_eq_iff_sameGroup (v := none) (w := some _) Value.doubleFree_null
      (Value.doubleFree_string _)).mpr hnull
  · exact (groupKey_eq_iff_sameGroup (v := some _) (w := some _) (Value.doubleFree_bool _)
      (Value.doubleFree_int _)).mp h

/-- A list with the two surrogates of a character, each standing alone. -/
def splitList : Value := .list [.string (String.ofList (Text.ofCodes [0xD83D, 0xDE00]))]

def wholeList : Value := .list [.string "😀"]

/-- Two lists that differ share a group. -/
theorem splitList_grouped_with_wholeList :
    splitList.DoubleFree ∧ wholeList.DoubleFree ∧ splitList ≠ wholeList ∧
      groupKey (some splitList) = groupKey (some wholeList) := by
  refine ⟨by simp [splitList], by simp [wholeList], ?_, ?_⟩
  · intro h
    have htexts : Text.ofCodes [0xD83D, 0xDE00] = ['😀'] :=
      String.ofList_injective (by simpa [splitList, wholeList] using h)
    revert htexts
    decide
  · have hunits : Text.units (Text.ofCodes [0xD83D, 0xDE00]) = Text.units ['😀'] := by decide
    have hjoined : splitList.joined = wholeList.joined := by
      simp [splitList, wholeList, Value.joined, Value.joinedItems, Text.joined, hunits]
    exact (Json.write_eq_iff rfl Json.compact_usesComma (by simp [splitList])
      (by simp [wholeList])).mpr hjoined

end Sample

end Runbook
