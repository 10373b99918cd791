import Runbook.Proofs.Template

/-!
# Resolving is one substitution

A text has one layout: literal stretches in which no placeholder is written, and between them all the
placeholders that are. Resolving fills these in where they stand and leaves the literal stretches, so
what is put in is never read as part of the template.
-/

namespace Runbook

namespace Template

/-- Literal text, and then placeholders by their words, each with the literal text after it. -/
structure Layout where
  opening : List Char
  rest : List (List Char × List Char)

namespace Layout

/-- The text of a layout, with something put in for each word. -/
def fillWith (put : List Char → List Char) (layout : Layout) : List Char :=
  layout.opening ++ layout.rest.flatMap fun part => put part.1 ++ part.2

def source (layout : Layout) : List Char :=
  layout.fillWith fun word => (Piece.placeholder word).source

/-- The layout up to one of its placeholders, when the parts before that are given. -/
def upTo (layout : Layout) (parts : List (List Char × List Char)) : Layout :=
  { layout with rest := parts }

end Layout

/-- A placeholder is written at a position of a text. -/
def OccursAt (cs : List Char) (position : Nat) (word : List Char) : Prop :=
  IsWord word ∧ (Piece.placeholder word).source <+: cs.drop position

/-- No placeholder is written in the text. -/
def IsLiteral (cs : List Char) : Prop :=
  ∀ word, IsWord word → ¬ (Piece.placeholder word).source <:+: cs

/-- The layout is one of the text, and its literal stretches are literal. -/
structure Layout.Divides (layout : Layout) (cs : List Char) : Prop where
  source : layout.source = cs
  opening : IsLiteral layout.opening
  rest : ∀ part ∈ layout.rest, IsWord part.1 ∧ IsLiteral part.2

variable {layout : Layout} {cs word : List Char}

/-! ### Existence -/

theorem isLiteral_nil : IsLiteral [] := by
  intro word _ hwritten
  simp [placeholder_source_eq] at hwritten

theorem IsLiteral.part {part : List Char} (h : IsLiteral cs) (hpart : part <:+: cs) :
    IsLiteral part := by
  intro word hword hwritten
  exact h word hword (hwritten.trans hpart)

/-- A character that starts no placeholder can be put before literal text. -/
theorem IsLiteral.cons {c : Char} {back : List Char} (h : IsLiteral cs)
    (hc : c = '{' → wordAfterBrace? (cs ++ back) = none) : IsLiteral (c :: cs) := by
  intro word hword hwritten
  rcases List.infix_cons_iff.mp hwritten with hfirst | hlater
  · have hfront : (Piece.placeholder word).source <+: c :: (cs ++ back) :=
      hfirst.trans (List.prefix_append (c :: cs) back)
    obtain ⟨hopen, hfound⟩ := wordAfterBrace?_of_prefix hword hfront
    simp [hc hopen] at hfound
  · exact h word hword hlater

theorem exists_divides (cs : List Char) : ∃ layout : Layout, layout.Divides cs := by
  induction hlength : cs.length using Nat.strongRecOn generalizing cs with
  | ind length ih =>
    cases cs with
    | nil => exact ⟨⟨[], []⟩, rfl, isLiteral_nil, by simp⟩
    | cons c rest =>
      by_cases hopen : c = '{' ∧ (wordAfterBrace? rest).isSome
      · obtain ⟨rfl, hsome⟩ := hopen
        obtain ⟨word, hfound⟩ := Option.isSome_iff_exists.mp hsome
        obtain ⟨hword, tail, rfl⟩ := wordAfterBrace?_eq_some_iff.mp hfound
        have hshorter : tail.length < length := by
          simp only [List.length_cons, List.length_append] at hlength
          omega
        obtain ⟨layout, hsource, hopening, hrest⟩ := ih tail.length hshorter tail rfl
        refine ⟨⟨[], (word, layout.opening) :: layout.rest⟩, ?_, isLiteral_nil, ?_⟩
        · rw [← hsource]
          simp [Layout.source, Layout.fillWith, placeholder_source_eq]
        · rw [List.forall_mem_cons]
          exact ⟨⟨hword, hopening⟩, hrest⟩
      · have hliteral : c = '{' → wordAfterBrace? rest = none := by
          simpa [Option.isNone_iff_eq_none] using hopen
        have hshorter : rest.length < length := by
          simp only [List.length_cons] at hlength
          omega
        obtain ⟨layout, rfl, hopening, hrest⟩ := ih rest.length hshorter rest rfl
        exact ⟨⟨c :: layout.opening, layout.rest⟩, rfl, hopening.cons hliteral, hrest⟩

/-! ### Uniqueness -/

/-- The pieces that a layout is made of. -/
def Layout.pieces (layout : Layout) : List Piece :=
  layout.opening.map .literal ++
    layout.rest.flatMap fun part => .placeholder part.1 :: part.2.map .literal

def Layout.ofPieces : List Piece → Layout
  | [] => ⟨[], []⟩
  | .literal c :: rest => { ofPieces rest with opening := c :: (ofPieces rest).opening }
  | .placeholder word :: rest => ⟨[], (word, (ofPieces rest).opening) :: (ofPieces rest).rest⟩

theorem Layout.ofPieces_literal_append (text : List Char) (pieces : List Piece) :
    ofPieces (text.map .literal ++ pieces)
      = { ofPieces pieces with opening := text ++ (ofPieces pieces).opening } := by
  induction text with
  | nil => rfl
  | cons c text ih => simp [ofPieces, ih]

theorem Layout.ofPieces_pieces (layout : Layout) : ofPieces layout.pieces = layout := by
  obtain ⟨opening, rest⟩ := layout
  rw [pieces, ofPieces_literal_append]
  have hrest : ofPieces (rest.flatMap fun part => .placeholder part.1 :: part.2.map .literal)
      = ⟨[], rest⟩ := by
    induction rest with
    | nil => rfl
    | cons part rest ih =>
      rw [List.flatMap_cons, List.cons_append, ofPieces, ofPieces_literal_append, ih]
      simp
  simp [hrest]

/-- No word is found behind a brace of literal text, since it would have to end inside that text. -/
theorem wordAfterBrace?_of_isLiteral {text tail : List Char} (htext : IsLiteral ('{' :: text))
    (htail : tail = [] ∨ tail.head? = some '{') : wordAfterBrace? (text ++ tail) = none := by
  rw [Option.eq_none_iff_forall_ne_some]
  intro word hfound
  obtain ⟨hword, rest, hsplit⟩ := wordAfterBrace?_eq_some_iff.mp hfound
  have hinside : ¬ word ++ ['}'] <+: text := by
    intro hstart
    have hwritten : (Piece.placeholder word).source <+: '{' :: text := by
      rw [placeholder_source_eq, List.cons_prefix_cons]
      exact ⟨rfl, hstart⟩
    exact htext word hword hwritten.isInfix
  rw [List.append_cons, List.append_eq_append_iff] at hsplit
  rcases hsplit with ⟨excess, hexcess, rfl⟩ | ⟨excess, rfl, -⟩
  · cases excess with
    | nil => exact hinside ⟨[], by simpa using hexcess⟩
    | cons c excess =>
      obtain rfl : c = '{' := by simpa using htail
      exact hword.open_not_mem (by simp [hexcess])
  · exact hinside (List.prefix_append _ excess)

/-- Literal text is read as literal up to its end, whether the text ends there or goes on with a
brace. -/
theorem piecesFrom_literal_append {text tail : List Char} (htext : IsLiteral text)
    (htail : tail = [] ∨ tail.head? = some '{') :
    piecesFrom 0 (text ++ tail) = text.map .literal ++ piecesFrom 0 tail := by
  induction text with
  | nil => rfl
  | cons c text ih =>
    have hnone : c = '{' → wordAfterBrace? (text ++ tail) = none := by
      rintro rfl
      exact wordAfterBrace?_of_isLiteral htext htail
    rw [List.cons_append, piecesFrom_of_literal hnone,
      ih (htext.part (List.suffix_cons c text).isInfix)]
    rfl

theorem piecesFrom_placeholder_append (hword : IsWord word) (tail : List Char) :
    piecesFrom 0 ((Piece.placeholder word).source ++ tail)
      = .placeholder word :: piecesFrom 0 tail := by
  have hfound : wordAfterBrace? (word ++ '}' :: tail) = some word :=
    wordAfterBrace?_eq_some_iff.mpr ⟨hword, tail, rfl⟩
  have hsource : (Piece.placeholder word).source ++ tail = '{' :: (word ++ '}' :: tail) := by
    simp [placeholder_source_eq]
  rw [hsource, piecesFrom_of_word hfound]
  simp

theorem piecesFrom_parts {parts : List (List Char × List Char)}
    (h : ∀ part ∈ parts, IsWord part.1 ∧ IsLiteral part.2) {text : List Char}
    (htext : IsLiteral text) :
    piecesFrom 0 (text ++ parts.flatMap fun part => (Piece.placeholder part.1).source ++ part.2)
      = text.map .literal ++ parts.flatMap fun part => .placeholder part.1 :: part.2.map .literal := by
  induction parts generalizing text with
  | nil => exact piecesFrom_literal_append htext (Or.inl rfl)
  | cons part parts ih =>
    rw [List.forall_mem_cons] at h
    obtain ⟨⟨hword, hpart⟩, hparts⟩ := h
    rw [piecesFrom_literal_append htext (Or.inr rfl), List.flatMap_cons, List.append_assoc,
      piecesFrom_placeholder_append hword, ih hparts hpart]
    rfl

theorem Layout.Divides.pieces_eq (h : layout.Divides cs) : piecesFrom 0 cs = layout.pieces := by
  rw [← h.source]
  exact piecesFrom_parts h.rest h.opening

theorem Layout.Divides.unique {other : Layout} (h : layout.Divides cs) (hother : other.Divides cs) :
    other = layout := by
  rw [← other.ofPieces_pieces, ← hother.pieces_eq, h.pieces_eq, layout.ofPieces_pieces]

/-! ### Occurrences -/

/-- Layouts of the text before and after a placeholder make up one of the whole. -/
theorem Layout.Divides.join {before after : Layout} {front back : List Char}
    (hbefore : before.Divides front) (hword : IsWord word) (hafter : after.Divides back) :
    Layout.Divides ⟨before.opening, before.rest ++ (word, after.opening) :: after.rest⟩
      (front ++ (Piece.placeholder word).source ++ back) where
  source := by
    rw [← hbefore.source, ← hafter.source]
    simp [Layout.source, Layout.fillWith]
  opening := hbefore.opening
  rest := by
    intro part hpart
    rcases List.mem_append.mp hpart with hfront | hback
    · exact hbefore.rest part hfront
    · rcases List.mem_cons.mp hback with rfl | hback
      · exact ⟨hword, hafter.opening⟩
      · exact hafter.rest part hback

/-- The placeholders written in a text are those of its layout, each where it stands there. -/
theorem Layout.Divides.occursAt_iff (h : layout.Divides cs) {position : Nat} :
    OccursAt cs position word ↔
      ∃ front text back, layout.rest = front ++ (word, text) :: back ∧
        position = (layout.upTo front).source.length := by
  constructor
  · rintro ⟨hword, back, hback⟩
    have hsplit : cs = cs.take position ++ (Piece.placeholder word).source ++ back := by
      rw [List.append_assoc, hback, List.take_append_drop]
    have hposition : position ≤ cs.length := by
      have hlength := congrArg List.length hback
      simp only [List.length_append, List.length_drop, placeholder_source_eq,
        List.length_cons] at hlength
      omega
    -- Layouts of what stands before and after it make up a layout of the text, so the one there is.
    obtain ⟨before, hbefore⟩ := exists_divides (cs.take position)
    obtain ⟨after, hafter⟩ := exists_divides back
    have hjoined := hbefore.join hword hafter
    rw [← hsplit] at hjoined
    obtain rfl := h.unique hjoined
    refine ⟨before.rest, after.opening, after.rest, rfl, ?_⟩
    have hsource : (Layout.upTo ⟨before.opening, before.rest ++ (word, after.opening) :: after.rest⟩
        before.rest).source = cs.take position := hbefore.source
    rw [hsource, List.length_take, Nat.min_eq_left hposition]
  · rintro ⟨front, text, back, hrest, rfl⟩
    refine ⟨(h.rest (word, text) (by simp [hrest])).1, ?_⟩
    have hsource : cs = (layout.upTo front).source ++ ((Piece.placeholder word).source ++
        (text ++ back.flatMap fun part => (Piece.placeholder part.1).source ++ part.2)) := by
      rw [← h.source]
      simp [Layout.source, Layout.fillWith, Layout.upTo, hrest]
    rw [hsource, List.drop_left]
    exact List.prefix_append _ _

theorem OccursAt.apart {first second : Nat} {other : List Char} (hword : OccursAt cs first word)
    (hother : OccursAt cs second other) (hlt : first < second) :
    first + word.length + 2 ≤ second := by
  refine Nat.le_of_not_lt fun hoverlap => hword.1.open_not_mem ?_
  obtain ⟨offset, rfl⟩ : ∃ offset, second = first + (offset + 1) :=
    ⟨second - first - 1, by omega⟩
  have hoffset : offset < (word ++ ['}']).length := by
    rw [List.length_append, List.length_singleton]
    omega
  -- The brace that opens the second one is read inside the first one too, behind its own brace.
  have hopen : cs[first + (offset + 1)]? = some '{' := by
    obtain ⟨tail, htail⟩ := hother.2
    have hhead := congrArg (fun text : List Char => text[0]?) htail
    simpa [placeholder_source_eq, List.getElem?_drop] using hhead.symm
  have hinside : cs[first + (offset + 1)]? = (word ++ ['}'])[offset]? := by
    obtain ⟨tail, htail⟩ := hword.2
    have hchar := congrArg (fun text : List Char => text[offset + 1]?) htail
    simp only [placeholder_source_eq, List.cons_append, List.getElem?_cons_succ,
      List.getElem?_drop] at hchar
    rw [← hchar, List.getElem?_append_left hoffset]
  exact List.mem_of_getElem? (hinside.symm.trans hopen)

/-! ### Filling in -/

/-- What stands for a placeholder in a text: the text of the field that it names, else itself. -/
def substitute (fields : Value.Fields) (word : List Char) : List Char :=
  match Entries.get? fields (String.ofList word) with
  | some v => v.stringify.toList
  | none => (Piece.placeholder word).source

def Piece.filled (fields : Value.Fields) : Piece → List Char
  | .literal c => [c]
  | .placeholder word => substitute fields word

theorem fill_ofFields (fields : Value.Fields) (piece : Piece) :
    piece.fill (Data.ofFields fields) = .ok (String.ofList (piece.filled fields)) := by
  cases piece with
  | literal c => rfl
  | placeholder word =>
    rw [Piece.fill, Data.ofFields, Entries.get?_mapValues, Piece.filled, substitute]
    cases Entries.get? fields (String.ofList word) with
    | none => rfl
    | some v => simp [Data.stringify, Data.resolve, Except.map]

theorem fillAll_ofFields (fields : Value.Fields) (pieces : List Piece) :
    fillAll (Data.ofFields fields) pieces
      = .ok (String.ofList (pieces.flatMap (Piece.filled fields))) := by
  induction pieces with
  | nil => rfl
  | cons piece rest ih =>
    simp [fillAll, fill_ofFields, ih, bind, Except.bind, pure, Except.pure]

theorem Layout.flatMap_pieces_filled (fields : Value.Fields) (layout : Layout) :
    layout.pieces.flatMap (Piece.filled fields) = layout.fillWith (substitute fields) := by
  have hliteral : ∀ text : List Char, (text.map .literal).flatMap (Piece.filled fields) = text := by
    intro text
    rw [List.flatMap_map]
    exact List.flatMap_singleton' text
  rw [pieces, fillWith, List.flatMap_append, hliteral, List.flatMap_assoc]
  congr 2
  funext part
  rw [List.flatMap_cons, hliteral, Piece.filled]

/-- A template has one layout, made of all the placeholders that are written in it, none of which
overlap, and of literal text. It resolves to that layout with the fields put in for the placeholders
that name one, and to itself where no placeholder is written. -/
theorem resolve_substitutes_once (template : String) (fields : Value.Fields) :
    ∃ layout : Layout,
      layout.Divides template.toList ∧
      (∀ other : Layout, other.Divides template.toList → other = layout) ∧
      (∀ position word, OccursAt template.toList position word ↔
        ∃ front text back, layout.rest = front ++ (word, text) :: back ∧
          position = (layout.upTo front).source.length) ∧
      (∀ first second word other, OccursAt template.toList first word →
        OccursAt template.toList second other → first < second →
          first + word.length + 2 ≤ second) ∧
      resolve template (Data.ofFields fields)
        = .ok (String.ofList (layout.fillWith (substitute fields))) ∧
      ((∀ position word, ¬ OccursAt template.toList position word) →
        resolve template (Data.ofFields fields) = .ok template) := by
  obtain ⟨layout, hdivides⟩ := exists_divides template.toList
  have hresolved : resolve template (Data.ofFields fields)
      = .ok (String.ofList (layout.fillWith (substitute fields))) := by
    rw [resolve, pieces, hdivides.pieces_eq, fillAll_ofFields, layout.flatMap_pieces_filled]
  refine ⟨layout, hdivides, fun _ => hdivides.unique, fun _ _ => hdivides.occursAt_iff,
    fun _ _ _ _ => OccursAt.apart, hresolved, fun hnone => ?_⟩
  rw [hresolved]
  have hrest : layout.rest = [] := by
    cases hparts : layout.rest with
    | nil => rfl
    | cons part parts =>
      exact absurd (hdivides.occursAt_iff.mpr ⟨[], part.2, parts, hparts, rfl⟩) (hnone _ _)
  have hsource : layout.fillWith (substitute fields) = layout.source := by
    simp [Layout.source, Layout.fillWith, hrest]
  rw [hsource, hdivides.source, String.ofList_toList]

/-- What is put in is not read again, though it makes up a placeholder with the braces around it. -/
example : resolve "\x7b\x7bx\x7d\x7d" (Data.ofFields [("x", .string "y"), ("y", .int 0)])
    = .ok "\x7by\x7d" := by cbv

end Template

theorem Sample.unclosed_resolves_to_itself :
    (∀ position word, ¬ Template.OccursAt "\x7bx".toList position word) ∧
      Template.resolve "\x7bx" (Data.ofFields [("x", .null)]) = .ok "\x7bx" := by
  have hnone : ∀ position word, ¬ Template.OccursAt "\x7bx".toList position word := by
    rintro position word ⟨-, hwritten⟩
    have hclose : '}' ∈ (Template.Piece.placeholder word).source := by
      simp [Template.placeholder_source_eq]
    have hmem : '}' ∈ "\x7bx".toList := List.mem_of_mem_drop (hwritten.subset hclose)
    revert hmem
    decide
  obtain ⟨_, -, -, -, -, -, hunchanged⟩ :=
    Template.resolve_substitutes_once "\x7bx" [("x", .null)]
  exact ⟨hnone, hunchanged hnone⟩

end Runbook
