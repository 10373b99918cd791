import Runbook.Proofs.Json.Writer

/-!
# Which JSON text can be sent

JSON text that is sent as UTF-8 has a form there exactly if each text in the value has one: marks,
numbers and escapes are ASCII, and the quotes keep the code points of a text apart from what stands
around it.
-/

namespace Runbook

namespace Value

/-- A text that stands somewhere in a value, or names a field in it. -/
inductive HasText (s : String) : Value → Prop where
  | text : HasText s (.string s)
  | item {items : List Value} {v : Value} (hitem : v ∈ items) (hv : HasText s v) :
      HasText s (.list items)
  | name {fields : List (String × Value)} {v : Value} (hfield : (s, v) ∈ fields) :
      HasText s (.object fields)
  | field {fields : List (String × Value)} {name : String} {v : Value}
      (hfield : (name, v) ∈ fields) (hv : HasText s v) : HasText s (.object fields)

/-- Every text in the value has a form in UTF-8. -/
def TextsEncodable (v : Value) : Prop :=
  ∀ s, HasText s v → Text.isEncodable s = true

@[simp] theorem textsEncodable_string_iff {s : String} :
    TextsEncodable (.string s) ↔ Text.isEncodable s = true := by
  constructor
  · exact fun h => h s .text
  · rintro h _ ⟨⟩
    exact h

@[simp] theorem textsEncodable_list_iff {items : List Value} :
    TextsEncodable (.list items) ↔ ∀ v ∈ items, v.TextsEncodable := by
  constructor
  · exact fun h v hitem s hv => h s (.item hitem hv)
  · rintro h s (_ | ⟨hitem, hv⟩)
    exact h _ hitem s hv

@[simp] theorem textsEncodable_object_iff {fields : List (String × Value)} :
    TextsEncodable (.object fields) ↔
      ∀ field ∈ fields, Text.isEncodable field.1 = true ∧ field.2.TextsEncodable := by
  constructor
  · exact fun h field hfield => ⟨h _ (.name hfield), fun s hv => h s (.field hfield hv)⟩
  · rintro h s (_ | _ | hfield | ⟨hfield, hv⟩)
    · exact (h _ hfield).1
    · exact (h _ hfield).2 s hv

end Value

/-! ### Numerals -/

namespace Decimal

theorem isAscii_toDigits (n : Nat) : Text.IsAscii (Nat.toDigits 10 n) :=
  Text.isAscii_of_forall_isDigit fun _ hc => Nat.isDigit_of_mem_toDigits (by decide) (by decide) hc

theorem isAscii_ofUnits (d : Nat) (unit : Int) : Text.IsAscii (Digits.ofUnits d unit).digits := by
  intro c hc
  have hmem : c ∈ Nat.toDigits 10 d := by
    simpa using (List.dropWhile_sublist _).subset (List.mem_reverse.mp hc)
  exact isAscii_toDigits d c hmem

theorem isAscii_shortest (m : Nat) (e : Int) : Text.IsAscii (shortest m e).digits := by
  unfold shortest
  dsimp only
  cases hfound : (List.range 17).findSome? fun (extra : Nat) =>
      (nearestOnGrid? m e (leadingTen m e - extra)).map fun d =>
        Digits.ofUnits d (leadingTen m e - extra) with
  | none => exact fun c hc => absurd hc List.not_mem_nil
  | some digits =>
    obtain ⟨extra, -, hextra⟩ := List.exists_of_findSome?_eq_some hfound
    obtain ⟨d, -, rfl⟩ := Option.map_eq_some_iff.mp hextra
    exact isAscii_ofUnits d _

theorem isAscii_ofList {cs : List Char} (h : Text.IsAscii cs) :
    Text.IsAscii (String.ofList cs).toList := by
  rwa [String.toList_ofList]

theorem isAscii_replicate_zero (n : Nat) : Text.IsAscii (List.replicate n '0') := by
  intro c hc
  obtain rfl := (List.mem_replicate.mp hc).2
  decide

theorem isAscii_exponentText (x : Int) : Text.IsAscii (exponentText x).toList := by
  have hdigits : Text.IsAscii (toString x.natAbs).toList := by
    simpa [Nat.toList_repr] using isAscii_toDigits x.natAbs
  unfold exponentText
  refine Text.isAscii_text_append ?_ ?_
  · split <;> decide
  · split
    · exact Text.isAscii_text_append (by decide) hdigits
    · exact hdigits

theorem isAscii_place {layout : Layout} (hwhole : Text.IsAscii layout.wholeMark.toList)
    (hsingle : Text.IsAscii layout.singleMark.toList) {d : Digits} (hd : Text.IsAscii d.digits) :
    Text.IsAscii (layout.place d).toList := by
  have htake (n : Nat) : Text.IsAscii (d.digits.take n) := fun c hc => hd c (List.mem_of_mem_take hc)
  have hdrop (n : Nat) : Text.IsAscii (d.digits.drop n) := fun c hc => hd c (List.mem_of_mem_drop hc)
  unfold Layout.place
  dsimp only
  split
  · split
    · exact Text.isAscii_text_append (by decide)
        (isAscii_ofList (Text.isAscii_append (isAscii_replicate_zero _) hd))
    · have hpadded := isAscii_ofList (Text.isAscii_append (htake (d.lead.toNat + 1))
        (isAscii_replicate_zero (d.lead.toNat + 1 - (d.digits.take (d.lead.toNat + 1)).length)))
      split
      · exact Text.isAscii_text_append hpadded hwhole
      · exact Text.isAscii_text_append (Text.isAscii_text_append hpadded (by decide))
          (isAscii_ofList (hdrop _))
  · refine Text.isAscii_text_append (Text.isAscii_text_append (isAscii_ofList (htake 1)) ?_)
      (isAscii_exponentText _)
    split
    · exact hsingle
    · exact Text.isAscii_text_append (by decide)
        (isAscii_ofList fun c hc => hd c (List.mem_of_mem_tail hc))

theorem isAscii_structuredText (d : Double) : Text.IsAscii d.structuredText.toList := by
  unfold Double.structuredText Layout.render
  cases d with
  | nan shared => exact (show Text.IsAscii "NaN".toList by decide)
  | infinite negative => cases negative <;> decide
  | finite negative m e =>
    have hdigits : Text.IsAscii (if m = 0 then (⟨['0'], 0⟩ : Digits) else shortest m e).digits := by
      split
      · decide
      · exact isAscii_shortest m e
    refine Text.isAscii_text_append ?_ (isAscii_place (by decide) (by decide) hdigits)
    split <;> decide

end Decimal

namespace Json

theorem isAscii_numberText (n : Number) : Text.IsAscii (numberText n).toList := by
  cases n with
  | double d => exact Decimal.isAscii_structuredText d
  | int n =>
    rw [numberText, toList_toString_int]
    split
    · exact Decimal.isAscii_toDigits _
    · exact List.forall_mem_cons.mpr ⟨by decide, Decimal.isAscii_toDigits _⟩

/-! ### Escapes -/

theorem isAscii_unitCode {unit : Nat} (h : unit < 0x10000) : Text.IsAscii (unitCode unit).toList := by
  have hdigit : ∀ n ∈ List.range 16, n.digitChar.toNat < 0x80 := by decide
  have hlast (n : Nat) : (n % 16).digitChar.toNat < 0x80 :=
    hdigit _ (List.mem_range.mpr (Nat.mod_lt n (by decide)))
  rw [toList_unitCode h]
  simp only [Text.IsAscii, List.forall_mem_cons, hlast, List.not_mem_nil, false_imp_iff, implies_true,
    and_true]
  decide

theorem lt_of_shortForm_char {c : Char} {escape : String} (h : shortForm? c = some escape) :
    c.toNat < 0x80 := by
  have hunit : c.toNat < 0x7F := lt_of_shortForm (by rwa [Char.ofNat_toNat])
  omega

theorem isAscii_escapeChar {c : Char} (h : c.toNat < 0x80) : Text.IsAscii (escapeChar c).toList := by
  unfold escapeChar
  split
  · next hshort =>
    unfold shortForm? at hshort
    split at hshort <;> cases hshort <;> decide
  · split
    · exact isAscii_unitCode (by omega)
    · simpa [Text.IsAscii] using h

theorem escapeChar_of_le {c : Char} (h : 0x80 ≤ c.toNat) : (escapeChar c).toList = [c] := by
  unfold escapeChar
  split
  · next hshort => exact absurd (lt_of_shortForm_char hshort) (Nat.not_lt.mpr h)
  · rw [if_neg (by omega), Char.toString_eq_singleton, String.toList_singleton]

theorem exists_toList_escapeChar (c : Char) : ∃ first more, (escapeChar c).toList = first :: more := by
  unfold escapeChar
  split
  · next hshort =>
    unfold shortForm? at hshort
    split at hshort <;> cases hshort <;> simp
  · split <;> simp [unitCode]

/-- A digit of a code is written as it is. -/
theorem eq_of_escapeChar_append {c x : Char} {rest tail : List Char}
    (h : (escapeChar c).toList ++ rest = x :: tail) (hx : Text.isCodeDigit x = true) :
    x = c ∧ tail = rest := by
  by_cases hc : c.toNat < 0x80
  · obtain ⟨first, more, hfirst⟩ := exists_toList_escapeChar c
    rw [hfirst] at h
    obtain rfl : first = x := (List.cons.inj h).1
    have hdigit := (isAscii_escapeChar hc).isCodeDigit_eq_false (hfirst ▸ List.mem_cons_self)
    rw [hx] at hdigit
    cases hdigit
  · rw [escapeChar_of_le (Nat.le_of_not_lt hc)] at h
    cases h
    exact ⟨rfl, rfl⟩

/-- No digits come about by escaping. -/
theorem escapedChars_not_digits {cs : List Char}
    (h : ∀ a b tail, cs = a :: b :: tail → ¬ (Text.isCodeDigit a = true ∧ Text.isCodeDigit b = true)) :
    ∀ x y tail, escapedChars cs = x :: y :: tail →
      ¬ (Text.isCodeDigit x = true ∧ Text.isCodeDigit y = true) := by
  rintro x y tail heq ⟨hx, hy⟩
  rcases cs with _ | ⟨a, _ | ⟨b, cs⟩⟩
  · cases heq
  · obtain ⟨-, hrest⟩ := eq_of_escapeChar_append heq hx
    cases hrest
  · obtain ⟨rfl, hrest⟩ := eq_of_escapeChar_append heq hx
    obtain ⟨rfl, -⟩ := eq_of_escapeChar_append hrest.symm hy
    exact h _ _ _ rfl ⟨hx, hy⟩

theorem codes_escapeChar_append {c : Char} {rest : List Char}
    (h : c = Text.codeMark → ∀ x y tail, rest = x :: y :: tail →
      ¬ (Text.isCodeDigit x = true ∧ Text.isCodeDigit y = true)) :
    Text.codes ((escapeChar c).toList ++ rest)
      = (escapeChar c).toList.map Char.toNat ++ Text.codes rest := by
  by_cases hc : c.toNat < 0x80
  · exact (isAscii_escapeChar hc).codes_append rest
  · rw [escapeChar_of_le (Nat.le_of_not_lt hc)]
    by_cases hmark : c = Text.codeMark
    · exact Text.codes_cons_of_not_digits (h hmark)
    · exact Text.codes_cons_of_ne hmark rest

theorem escapedChars_cons (c : Char) (cs : List Char) :
    escapedChars (c :: cs) = (escapeChar c).toList ++ escapedChars cs := rfl

theorem toList_escapeChar_of_isCodeDigit {c : Char} (h : Text.isCodeDigit c = true) :
    (escapeChar c).toList = [c] := by
  refine escapeChar_of_le ?_
  unfold Text.isCodeDigit Text.firstReserved at h
  rw [Bool.and_eq_true, decide_eq_true_eq] at h
  omega

/-- Escaping leaves the surrogates of a text alone. -/
theorem encodable_escapedChars_iff (cs : List Char) :
    Text.Encodable (escapedChars cs) ↔ Text.Encodable cs := by
  -- On the length, since the code of a surrogate takes three characters at once.
  induction h : cs.length using Nat.strongRecOn generalizing cs with
  | ind n ih =>
    subst h
    rcases cs with _ | ⟨a, cs⟩
    · rfl
    by_cases hcode : a = Text.codeMark ∧ ∃ b c tail, cs = b :: c :: tail ∧
        Text.isCodeDigit b = true ∧ Text.isCodeDigit c = true
    · obtain ⟨rfl, b, c, tail, rfl, hb, hc⟩ := hcode
      have hmark : (escapeChar Text.codeMark).toList = [Text.codeMark] :=
        escapeChar_of_le (by decide)
      have hwritten : escapedChars (Text.codeMark :: b :: c :: tail)
          = Text.codeMark :: b :: c :: escapedChars tail := by
        simp [escapedChars_cons, hmark, toList_escapeChar_of_isCodeDigit hb,
          toList_escapeChar_of_isCodeDigit hc]
      rw [hwritten, Text.Encodable, Text.Encodable, Text.codes, if_pos ⟨rfl, hb, hc⟩, Text.codes,
        if_pos ⟨rfl, hb, hc⟩, List.forall_mem_cons, List.forall_mem_cons]
      exact and_congr_right' (ih tail.length (by simp; omega) tail rfl)
    · have hdigits : a = Text.codeMark → ∀ b c tail, cs = b :: c :: tail →
          ¬ (Text.isCodeDigit b = true ∧ Text.isCodeDigit c = true) :=
        fun ha b c tail hcs hbc => hcode ⟨ha, b, c, tail, hcs, hbc⟩
      have hplain : Text.codes (a :: cs) = a.toNat :: Text.codes cs := by
        by_cases ha : a = Text.codeMark
        · exact Text.codes_cons_of_not_digits (hdigits ha)
        · exact Text.codes_cons_of_ne ha cs
      have hescape : ∀ code ∈ (escapeChar a).toList.map Char.toNat, Text.isSurrogate code = false := by
        simpa using fun c _ => Text.isSurrogate_toNat c
      rw [escapedChars_cons, Text.Encodable, Text.Encodable,
        codes_escapeChar_append fun ha => escapedChars_not_digits (hdigits ha), hplain,
        List.forall_mem_append, List.forall_mem_cons, and_iff_right hescape,
        and_iff_right (Text.isSurrogate_toNat a)]
      exact ih cs.length (by simp) cs rfl

/-! ### Texts and values -/

theorem encodable_quote_append_iff (s : String) (rest : List Char) :
    Text.Encodable ((quote plain s).toList ++ rest) ↔
      Text.isEncodable s = true ∧ Text.Encodable rest := by
  have hquote {tail : List Char} : Text.Encodable ('"' :: tail) ↔ Text.Encodable tail :=
    (show Text.IsAscii ['"'] by decide).encodable_append_iff tail
  have hhead : ∀ c ∈ ('"' :: rest).head?, Text.isCodeDigit c = false := by
    rintro _ ⟨⟩
    decide
  have hsplit : Text.Encodable (escapedChars s.toList ++ '"' :: rest) ↔
      Text.Encodable (escapedChars s.toList) ∧ Text.Encodable ('"' :: rest) := by
    rw [Text.Encodable, Text.codes_append_of_head hhead, List.forall_mem_append]
    rfl
  rw [toList_quote_plain, List.cons_append, List.append_assoc, List.singleton_append, hquote, hsplit,
    hquote, encodable_escapedChars_iff, Text.isEncodable_iff]

mutual

theorem encodable_write_append_iff : ∀ (v : Value) (rest : List Char),
    Text.Encodable ((write plain v).toList ++ rest) ↔ v.TextsEncodable ∧ Text.Encodable rest
  | .null, rest => by
    rw [toList_write_null, (show Text.IsAscii _ by decide).encodable_append_iff]
    exact (and_iff_right nofun).symm
  | .bool b, rest => by
    rw [toList_write_bool, (show Text.IsAscii _ by cases b <;> decide).encodable_append_iff]
    exact (and_iff_right nofun).symm
  | .number n, rest => by
    rw [write, (isAscii_numberText n).encodable_append_iff]
    exact (and_iff_right nofun).symm
  | .string s, rest => by
    rw [write, encodable_quote_append_iff, Value.textsEncodable_string_iff]
  | .list [], rest => by
    rw [write, (show Text.IsAscii _ by decide).encodable_append_iff]
    exact (and_iff_right (Value.textsEncodable_list_iff.mpr (List.forall_mem_nil _))).symm
  | .list (v :: vs), rest => by
    simp only [write, String.toList_append, List.append_assoc]
    rw [(show Text.IsAscii _ by decide).encodable_append_iff, encodable_write_append_iff v,
      encodable_writeItems_append_iff vs, (show Text.IsAscii _ by decide).encodable_append_iff,
      Value.textsEncodable_list_iff, List.forall_mem_cons, and_assoc]
  | .object [], rest => by
    rw [write, (show Text.IsAscii _ by decide).encodable_append_iff]
    exact (and_iff_right (Value.textsEncodable_object_iff.mpr (List.forall_mem_nil _))).symm
  | .object ((k, v) :: fields), rest => by
    simp only [write, String.toList_append, List.append_assoc]
    rw [(show Text.IsAscii _ by decide).encodable_append_iff, encodable_quote_append_iff,
      (show Text.IsAscii _ by decide).encodable_append_iff, encodable_write_append_iff v,
      encodable_writeFields_append_iff fields, (show Text.IsAscii _ by decide).encodable_append_iff,
      Value.textsEncodable_object_iff, List.forall_mem_cons, and_assoc, and_assoc]

theorem encodable_writeItems_append_iff : ∀ (vs : List Value) (rest : List Char),
    Text.Encodable ((writeItems plain vs).toList ++ rest) ↔
      (∀ v ∈ vs, v.TextsEncodable) ∧ Text.Encodable rest
  | [], rest => by simp [writeItems]
  | v :: vs, rest => by
    simp only [writeItems, String.toList_append, List.append_assoc]
    rw [(show Text.IsAscii _ by decide).encodable_append_iff, encodable_write_append_iff v,
      encodable_writeItems_append_iff vs, List.forall_mem_cons, and_assoc]

theorem encodable_writeFields_append_iff : ∀ (fields : List (String × Value)) (rest : List Char),
    Text.Encodable ((writeFields plain fields).toList ++ rest) ↔
      (∀ field ∈ fields, Text.isEncodable field.1 = true ∧ field.2.TextsEncodable) ∧
        Text.Encodable rest
  | [], rest => by simp [writeFields]
  | (k, v) :: fields, rest => by
    simp only [writeFields, String.toList_append, List.append_assoc]
    rw [(show Text.IsAscii _ by decide).encodable_append_iff, encodable_quote_append_iff,
      (show Text.IsAscii _ by decide).encodable_append_iff, encodable_write_append_iff v,
      encodable_writeFields_append_iff fields, List.forall_mem_cons, and_assoc, and_assoc]

end

/-- Values that can be sent are those whose texts can. -/
theorem isEncodable_write_iff (v : Value) :
    Text.isEncodable (write plain v) = true ↔ v.TextsEncodable := by
  rw [Text.isEncodable_iff, ← List.append_nil (write plain v).toList, encodable_write_append_iff]
  exact and_iff_left nofun

end Json

theorem Failure.notUtf8?_eq_none_iff {s : String} : notUtf8? s = none ↔ Text.isEncodable s = true := by
  rw [notUtf8?, Option.map_eq_none_iff, Text.utf8Complaint?_eq_none_iff]

end Runbook
