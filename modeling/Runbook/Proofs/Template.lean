import Runbook.Proofs.Data
import Runbook.Template

/-!
# Placeholders

A placeholder is among the pieces of a template exactly when it is written somewhere in it: no other
piece can cover its braces. A template fails to resolve only over a placeholder for runtime data that
contain themselves, and reads nothing but the fields that its placeholders name.
-/

namespace Runbook.Template

/-! ### Pieces -/

theorem piecesFrom_eq_drop (skip : Nat) (cs : List Char) :
    piecesFrom skip cs = piecesFrom 0 (cs.drop skip) := by
  induction cs generalizing skip with
  | nil => simp [piecesFrom]
  | cons c rest ih =>
    cases skip with
    | zero => rfl
    | succ skip => rw [piecesFrom, ih, List.drop_succ_cons]

theorem piecesFrom_of_word {rest word : List Char} (h : wordAfterBrace? rest = some word) :
    piecesFrom 0 ('{' :: rest) = .placeholder word :: piecesFrom 0 (rest.drop (word.length + 1)) := by
  simp [piecesFrom, h, ← piecesFrom_eq_drop]

theorem piecesFrom_of_literal {c : Char} {rest : List Char}
    (h : c = '{' → wordAfterBrace? rest = none) :
    piecesFrom 0 (c :: rest) = .literal c :: piecesFrom 0 rest := by
  by_cases hc : c = '{'
  · simp [piecesFrom, hc, h hc]
  · simp [piecesFrom, hc]

/-- The words that may stand in a placeholder. -/
def IsWord (word : List Char) : Prop :=
  word ≠ [] ∧ ∀ c ∈ word, Text.isWordChar c = true

theorem isWordChar_open : Text.isWordChar '{' = false := by decide +kernel

theorem isWordChar_close : Text.isWordChar '}' = false := by decide +kernel

/-- A placeholder has no opening brace after its first character. -/
theorem IsWord.open_not_mem {word : List Char} (h : IsWord word) : '{' ∉ word ++ ['}'] := by
  intro hmem
  rcases List.mem_append.mp hmem with hchar | hclose
  · simpa [isWordChar_open] using h.2 '{' hchar
  · simp at hclose

theorem wordAfterBrace?_eq_some_iff {cs word : List Char} :
    wordAfterBrace? cs = some word ↔ IsWord word ∧ ∃ rest, cs = word ++ '}' :: rest := by
  constructor
  · intro h
    obtain ⟨hshape, rfl⟩ : ((cs.takeWhile Text.isWordChar).isEmpty = false ∧
        (cs.drop (cs.takeWhile Text.isWordChar).length).head? = some '}') ∧
          cs.takeWhile Text.isWordChar = word := by
      simpa [wordAfterBrace?] using h
    obtain ⟨hne, hhead⟩ := hshape
    obtain ⟨rest, hrest⟩ := List.head?_eq_some_iff.mp hhead
    refine ⟨⟨by simpa using hne, List.all_eq_true.mp List.all_takeWhile⟩, rest, ?_⟩
    have hfront := List.prefix_iff_eq_append.mp (List.takeWhile_prefix Text.isWordChar (l := cs))
    rw [← hrest, hfront]
  · rintro ⟨⟨hne, hword⟩, rest, rfl⟩
    have htaken : (word ++ '}' :: rest).takeWhile Text.isWordChar = word := by
      rw [List.takeWhile_append_of_pos hword]
      simp [isWordChar_close]
    simp [wordAfterBrace?, htaken, hne]

theorem placeholder_source_eq (word : List Char) :
    (Piece.placeholder word).source = '{' :: (word ++ ['}']) := rfl

/-- Text that starts where a placeholder does, and ends with a later one, goes on with the later one. -/
theorem infix_of_infix_append {before word after : List Char} (hopen : '{' ∉ before)
    (h : (Piece.placeholder word).source <:+: before ++ after) :
    (Piece.placeholder word).source <:+: after := by
  obtain ⟨left, right, hsplit⟩ := h
  rw [List.append_assoc, List.append_eq_append_iff] at hsplit
  rcases hsplit with ⟨middle, rfl, hmiddle⟩ | ⟨middle, hmiddle, rfl⟩
  · cases middle with
    | nil => exact ⟨[], right, by simpa using hmiddle⟩
    | cons c rest =>
      rw [placeholder_source_eq, List.cons_append, List.cons_append] at hmiddle
      obtain ⟨rfl, -⟩ := List.cons.inj hmiddle
      simp at hopen
  · exact ⟨middle, right, by rw [List.append_assoc]⟩

theorem wordAfterBrace?_of_prefix {word rest : List Char} (hword : IsWord word) {c : Char}
    (h : (Piece.placeholder word).source <+: c :: rest) :
    c = '{' ∧ wordAfterBrace? rest = some word := by
  rw [placeholder_source_eq, List.cons_prefix_cons] at h
  obtain ⟨rfl, tail, htail⟩ := h
  exact ⟨rfl, wordAfterBrace?_eq_some_iff.mpr ⟨hword, tail, by simpa using htail.symm⟩⟩

/-- A placeholder is a piece of the text in which it is written. -/
theorem mem_piecesFrom_iff {word : List Char} (hword : IsWord word) (cs : List Char) :
    .placeholder word ∈ piecesFrom 0 cs ↔ (Piece.placeholder word).source <:+: cs := by
  induction hlength : cs.length using Nat.strongRecOn generalizing cs with
  | ind length ih =>
    cases cs with
    | nil => simp [piecesFrom, placeholder_source_eq]
    | cons c rest =>
      have hshorter : ∀ cs : List Char, cs.length ≤ rest.length →
          (.placeholder word ∈ piecesFrom 0 cs ↔ (Piece.placeholder word).source <:+: cs) :=
        fun cs hcs => ih cs.length (by rw [← hlength, List.length_cons]; omega) cs rfl
      rw [List.infix_cons_iff]
      by_cases hplaceholder : c = '{' ∧ (wordAfterBrace? rest).isSome
      · obtain ⟨rfl, hsome⟩ := hplaceholder
        obtain ⟨found, hfound⟩ := Option.isSome_iff_exists.mp hsome
        obtain ⟨hfoundWord, tail, rfl⟩ := wordAfterBrace?_eq_some_iff.mp hfound
        have hdrop : (found ++ '}' :: tail).drop (found.length + 1) = tail := by simp
        rw [piecesFrom_of_word hfound, hdrop, List.mem_cons, hshorter tail (by simp; omega),
          Piece.placeholder.injEq]
        constructor
        · rintro (rfl | htail)
          · exact Or.inl ⟨tail, by simp [placeholder_source_eq]⟩
          · exact Or.inr (htail.trans (List.suffix_append_of_suffix
              (List.suffix_cons '}' tail)).isInfix)
        · rintro (hfront | hinfix)
          · obtain ⟨-, hword'⟩ := wordAfterBrace?_of_prefix hword hfront
            exact Or.inl (Option.some.inj (hword'.symm.trans hfound))
          · -- No brace opens in the placeholder found, so another one can only start after it.
            rw [List.append_cons] at hinfix
            exact Or.inr (infix_of_infix_append hfoundWord.open_not_mem hinfix)
      · have hliteral : c = '{' → wordAfterBrace? rest = none := by
          simpa [Option.isNone_iff_eq_none] using hplaceholder
        rw [piecesFrom_of_literal hliteral, List.mem_cons, hshorter rest (Nat.le_refl _)]
        constructor
        · rintro (hpiece | hrest)
          · cases hpiece
          · exact Or.inr hrest
        · rintro (hfront | hrest)
          · obtain ⟨hc, hword'⟩ := wordAfterBrace?_of_prefix hword hfront
            simp [hliteral hc] at hword'
          · exact Or.inr hrest

/-! ### Failures -/

section Failures

variable {data : Data} {failure : Failure}

theorem fill_eq_error_iff {piece : Piece} :
    piece.fill data = .error failure ↔
      failure = .circular ∧ data.isCircular = true ∧
        ∃ word, piece = .placeholder word ∧
          Entries.get? data (String.ofList word) = some .whole := by
  cases piece with
  | literal c => simp [Piece.fill]
  | placeholder word =>
    unfold Piece.fill
    cases hfield : Entries.get? data (String.ofList word) with
    | none => simp [hfield]
    | some d => simp [hfield, Data.stringify_eq_error_iff, and_comm]

theorem fillAll_eq_error_iff {pieces : List Piece} :
    fillAll data pieces = .error failure ↔
      failure = .circular ∧ ∃ piece ∈ pieces, piece.fill data = .error .circular := by
  induction pieces with
  | nil => simp [fillAll]
  | cons piece rest ih =>
    cases hpiece : piece.fill data with
    | error found =>
      obtain rfl := (fill_eq_error_iff.mp hpiece).1
      simp [fillAll, hpiece, bind, Except.bind, eq_comm]
    | ok text =>
      cases hrest : fillAll data rest <;>
        simpa [fillAll, hpiece, hrest, bind, Except.bind, pure, Except.pure] using ih

/-- A template fails to resolve exactly over a placeholder for data that contain themselves. -/
theorem resolve_eq_error_iff {template : String} :
    resolve template data = .error failure ↔
      failure = .circular ∧ data.isCircular = true ∧
        ∃ word, .placeholder word ∈ pieces template ∧
          Entries.get? data (String.ofList word) = some .whole := by
  unfold resolve
  rw [fillAll_eq_error_iff]
  simp only [fill_eq_error_iff, true_and]
  constructor
  · rintro ⟨hfailure, piece, hpiece, hcircular, word, rfl, hfield⟩
    exact ⟨hfailure, hcircular, word, hpiece, hfield⟩
  · rintro ⟨hfailure, hcircular, word, hpiece, hfield⟩
    exact ⟨hfailure, _, hpiece, hcircular, word, rfl, hfield⟩

end Failures

/-! ### What a template reads -/

def Piece.field? : Piece → Option String
  | .literal _ => none
  | .placeholder word => some (String.ofList word)

/-- The fields that a template has placeholders for. -/
def fields (template : String) : List String :=
  (pieces template).filterMap Piece.field?

section Fields

variable {data other : Data} (hfinite : data.isCircular = false)
include hfinite

theorem fill_congr {piece : Piece}
    (h : ∀ field ∈ piece.field?, Entries.get? data field = Entries.get? other field) :
    piece.fill data = piece.fill other := by
  cases piece with
  | literal c => rfl
  | placeholder word =>
    have hfield := h (String.ofList word) rfl
    simp only [Piece.fill, ← hfield]
    cases hdatum : Entries.get? data (String.ofList word) with
    | none => rfl
    | some d =>
      refine Data.stringify_of_ne_whole ?_ data other
      rintro rfl
      exact Data.get?_ne_whole hfinite _ hdatum

theorem fillAll_congr {pieces : List Piece}
    (h : ∀ field ∈ pieces.filterMap Piece.field?,
      Entries.get? data field = Entries.get? other field) :
    fillAll data pieces = fillAll other pieces := by
  induction pieces with
  | nil => rfl
  | cons piece rest ih =>
    have hpiece : piece.fill data = piece.fill other := fill_congr hfinite fun field hfield =>
      h field (List.mem_filterMap.mpr ⟨piece, List.mem_cons_self, hfield⟩)
    have hrest : fillAll data rest = fillAll other rest := by
      refine ih fun field hfield => h field ?_
      obtain ⟨later, hlater, hnamed⟩ := List.mem_filterMap.mp hfield
      exact List.mem_filterMap.mpr ⟨later, List.mem_cons_of_mem piece hlater, hnamed⟩
    rw [fillAll, fillAll, hpiece, hrest]

/-- A template comes to the same in data that agree on the fields that it has placeholders for. -/
theorem resolve_congr {template : String}
    (h : ∀ field ∈ fields template, Entries.get? data field = Entries.get? other field) :
    resolve template data = resolve template other :=
  fillAll_congr hfinite h

end Fields

end Runbook.Template
