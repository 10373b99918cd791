import Mathlib.Algebra.Group.Nat.Defs
import Runbook.Json.Token
import Runbook.Json.Writer
import Runbook.Proofs.Text.Code

/-!
# Quoted texts

A text that is quoted for sending is read back as it was. In ASCII the units of a text are written, so
that two surrogates next to each other are read as the code point that they make up, whether they stood
alone before or not. The quote that closes a text is the first one that no escape holds.
-/

namespace Runbook.Json

/-! ### Hexadecimal codes -/

/-- The last so many digits of a unit. -/
def hexDigits : Nat → Nat → List Char
  | 0, _ => []
  | count + 1, unit => hexDigits count (unit / 16) ++ [(unit % 16).digitChar]

theorem padded_toDigits_eq_hexDigits (count unit : Nat) (h : unit < 16 ^ (count + 1)) :
    List.replicate (count + 1 - (Nat.toDigits 16 unit).length) '0' ++ Nat.toDigits 16 unit
      = hexDigits (count + 1) unit := by
  induction count generalizing unit with
  | zero =>
    have hunit : unit < 16 := by omega
    rw [Nat.toDigits_of_lt_base hunit]
    simp [hexDigits, Nat.mod_eq_of_lt hunit]
  | succ count ih =>
    have hnext := ih (unit / 16) (by rw [Nat.div_lt_iff_lt_mul (by decide)]; exact h)
    rw [hexDigits, ← hnext]
    by_cases hunit : unit < 16
    · have hzero : unit / 16 = 0 := by omega
      rw [hzero, Nat.toDigits_of_lt_base hunit, Nat.mod_eq_of_lt hunit]
      simp [List.replicate_succ']
    · rw [Nat.toDigits_of_base_le (by decide) (by omega)]
      simp

theorem toList_unitCode {unit : Nat} (h : unit < 0x10000) :
    (unitCode unit).toList
      = ['\\', 'u', (unit / 16 / 16 / 16 % 16).digitChar, (unit / 16 / 16 % 16).digitChar,
        (unit / 16 % 16).digitChar, (unit % 16).digitChar] := by
  rw [unitCode, String.toList_append, Text.hexCode, padded_toDigits_eq_hexDigits 3 unit h]
  simp [hexDigits]

theorem hexValue?_digitChar {n : Nat} (h : n < 16) : Text.hexValue? n.digitChar = some n := by
  have hall : ∀ m ∈ List.range 16, Text.hexValue? m.digitChar = some m := by decide
  exact hall n (List.mem_range.mpr h)

theorem hexUnit?_digitChar {unit : Nat} (h : unit < 0x10000) :
    hexUnit? (unit / 16 / 16 / 16 % 16).digitChar (unit / 16 / 16 % 16).digitChar
      (unit / 16 % 16).digitChar (unit % 16).digitChar = some unit := by
  have hdigit (n : Nat) : Text.hexValue? (n % 16).digitChar = some (n % 16) :=
    hexValue?_digitChar (Nat.mod_lt n (by decide))
  simp only [hexUnit?, hdigit, Option.bind_eq_bind, Option.bind_some, Option.pure_def,
    Option.some.injEq]
  omega

/-! ### Escapes -/

/-- The text goes on, and not with the code of a low surrogate. -/
structure NoLowSurrogate (rest : List Char) : Prop where
  ne_nil : rest ≠ []
  code : ∀ e f g h tail, rest = '\\' :: 'u' :: e :: f :: g :: h :: tail →
    ∃ unit, hexUnit? e f g h = some unit ∧ Text.isLowSurrogate unit = false

/-- A code stands for itself unless it is the first of two surrogates. -/
theorem textFrom_code {a b c d : Char} {unit : Nat} (hunit : hexUnit? a b c d = some unit)
    {rest : List Char} (hrest : rest ≠ [])
    (halone : Text.isHighSurrogate unit = false ∨ NoLowSurrogate rest) (start position : Nat) :
    textFrom start position ('\\' :: 'u' :: a :: b :: c :: d :: rest)
      = (textFrom start (position + 6) rest).map fun (cs, stop) =>
        (Text.ofCode unit ++ cs, stop) := by
  by_cases hcode : ∃ e f g h tail, rest = '\\' :: 'u' :: e :: f :: g :: h :: tail
  · obtain ⟨e, f, g, h, tail, rfl⟩ := hcode
    rw [textFrom, hunit]
    rcases halone with hhigh | hnext
    · simp [hhigh]
    · obtain ⟨low, hlow, hisLow⟩ := hnext.code e f g h tail rfl
      simp [hlow, hisLow]
  · have hother : ∀ e f g h tail, rest = '\\' :: 'u' :: e :: f :: g :: h :: tail → False :=
      fun e f g h tail heq => hcode ⟨e, f, g, h, tail, heq⟩
    rw [textFrom, hunit]
    · simp [hrest]
    · exact hother

/-- A character that is neither a quote nor a backslash stands for itself. -/
theorem textFrom_plain {c : Char} (hquote : c ≠ '"') (hbackslash : c ≠ '\\')
    (hcontrol : ¬ c.toNat < 0x20) (start position : Nat) (rest : List Char) :
    textFrom start position (c :: rest)
      = (textFrom start (position + 1) rest).map fun (cs, stop) => (c :: cs, stop) := by
  rw [textFrom, if_neg hcontrol]
  · exact hquote
  all_goals
    intros
    exact absurd ‹c = '\\'› hbackslash

theorem textFrom_shortForm {c : Char} {escape : String} (hshort : shortForm? c = some escape)
    (start position : Nat) (rest : List Char) :
    textFrom start position (escape.toList ++ rest)
      = (textFrom start (position + escape.toList.length) rest).map fun (cs, stop) =>
        (c :: cs, stop) := by
  unfold shortForm? at hshort
  split at hshort <;> cases hshort <;> simp [textFrom, shortEscape?]

/-- Two surrogates stand for one code point. -/
theorem textFrom_surrogates {a b c d e f g h : Char} {high low : Nat}
    (hhigh : hexUnit? a b c d = some high) (hlow : hexUnit? e f g h = some low)
    (hisHigh : Text.isHighSurrogate high = true) (hisLow : Text.isLowSurrogate low = true)
    (start position : Nat) {rest : List Char} (hrest : rest ≠ []) :
    textFrom start position
        ('\\' :: 'u' :: a :: b :: c :: d :: '\\' :: 'u' :: e :: f :: g :: h :: rest)
      = (textFrom start (position + 12) rest).map fun (cs, stop) =>
        (Text.ofCode (Text.joinSurrogates high low) ++ cs, stop) := by
  rw [textFrom, hhigh, hlow]
  simp [hisHigh, hisLow, hrest]

theorem ne_quote_of_shortForm {c : Char} (h : shortForm? c = none) : c ≠ '"' ∧ c ≠ '\\' := by
  constructor <;> rintro rfl <;> cases h

/-! ### Units -/

theorem ofCode_of_lt {code : Nat} (h : code < 0xD800) : Text.ofCode code = [Char.ofNat code] := by
  have hsurrogate : Text.isSurrogate code = false := Text.isSurrogate_eq_false_iff.mpr (.inl h)
  have hreserved : ¬ Text.firstReserved ≤ code := by
    unfold Text.firstReserved
    omega
  simp [Text.ofCode, hsurrogate, hreserved]

theorem toNat_ofNat_eq_or_zero (n : Nat) : (Char.ofNat n).toNat = n ∨ (Char.ofNat n).toNat = 0 := by
  by_cases hvalid : n.isValidChar
  · left
    rw [Char.ofNat, dif_pos hvalid]
    rfl
  · right
    rw [Char.ofNat, dif_neg hvalid]
    rfl

/-- Only units of ASCII have a short escape. -/
theorem lt_of_shortForm {unit : Nat} {escape : String}
    (h : shortForm? (Char.ofNat unit) = some escape) : unit < 0x7F := by
  have hcode := toNat_ofNat_eq_or_zero unit
  unfold shortForm? at h
  split at h
  case h_8 => cases h
  all_goals
    next heq =>
    simp only [heq, Char.reduceToNat] at hcode
    omega

theorem toList_escapeUnit_of_le {unit : Nat} (hle : 0x7F ≤ unit) (hunit : unit < 0x10000) :
    (escapeUnit unit).toList
      = ['\\', 'u', (unit / 16 / 16 / 16 % 16).digitChar, (unit / 16 / 16 % 16).digitChar,
        (unit / 16 % 16).digitChar, (unit % 16).digitChar] := by
  have hcode : escapeUnit unit = unitCode unit := by
    unfold escapeUnit
    split
    · next hshort => exact absurd (lt_of_shortForm hshort) (Nat.not_lt.mpr hle)
    · exact if_neg (by simp; omega)
  rw [hcode, toList_unitCode hunit]

/-- The escape of a unit is read as that unit. -/
theorem textFrom_escapeUnit {unit : Nat} (hunit : unit < 0x10000) {rest : List Char}
    (hrest : rest ≠ []) (halone : Text.isHighSurrogate unit = false ∨ NoLowSurrogate rest)
    (start position : Nat) :
    textFrom start position ((escapeUnit unit).toList ++ rest)
      = (textFrom start (position + (escapeUnit unit).toList.length) rest).map fun (cs, stop) =>
        (Text.ofCode unit ++ cs, stop) := by
  unfold escapeUnit
  split
  · next escape hshort =>
    have hlow := lt_of_shortForm hshort
    rw [ofCode_of_lt (by omega)]
    exact textFrom_shortForm hshort start position rest
  · next hshort =>
    split
    · next hprintable =>
      rw [Bool.and_eq_true, decide_eq_true_eq, decide_eq_true_eq] at hprintable
      obtain ⟨hquote, hbackslash⟩ := ne_quote_of_shortForm hshort
      have hcontrol : ¬ (Char.ofNat unit).toNat < 0x20 := by
        rw [Text.toNat_ofNat (.inl (by omega)) (by omega)]
        omega
      rw [ofCode_of_lt (by omega), Char.toString_eq_singleton, String.toList_singleton,
        List.singleton_append]
      exact textFrom_plain hquote hbackslash hcontrol start position rest
    · rw [toList_unitCode hunit]
      exact textFrom_code (hexUnit?_digitChar hunit) hrest halone start position

def escapedUnits (us : List Nat) : List Char :=
  us.flatMap fun unit => (escapeUnit unit).toList

theorem escapedUnits_cons (unit : Nat) (us : List Nat) :
    escapedUnits (unit :: us) = (escapeUnit unit).toList ++ escapedUnits us := rfl

theorem noLowSurrogate_quote (rest : List Char) : NoLowSurrogate ('"' :: rest) :=
  ⟨by simp, by simp⟩

theorem noLowSurrogate_escapeUnit {unit : Nat} (hunit : unit < 0x10000)
    (hlow : Text.isLowSurrogate unit = false) (rest : List Char) (hrest : rest ≠ []) :
    NoLowSurrogate ((escapeUnit unit).toList ++ rest) := by
  refine ⟨by simp [hrest], fun e f g h tail heq => ?_⟩
  unfold escapeUnit at heq
  split at heq
  · next hshort =>
    unfold shortForm? at hshort
    split at hshort <;> cases hshort <;> simp at heq
  · next hshort =>
    split at heq
    · have hbackslash := (ne_quote_of_shortForm hshort).2
      rw [Char.toString_eq_singleton, String.toList_singleton, List.singleton_append] at heq
      exact absurd (List.cons.inj heq).1 hbackslash
    · rw [toList_unitCode hunit] at heq
      cases heq
      exact ⟨unit, hexUnit?_digitChar hunit, hlow⟩

/-- Escaped units are read as the text of the units. -/
theorem textFrom_escapedUnits {us : List Nat} (hunits : ∀ unit ∈ us, unit < 0x10000)
    (start position : Nat) (rest : List Char) :
    textFrom start position (escapedUnits us ++ '"' :: rest)
      = .ok (Text.ofUnits us, position + (escapedUnits us).length + 1) := by
  induction us using Text.ofUnits.induct generalizing position with
  | case1 high low us hpair ih =>
    rw [Text.ofUnits, if_pos hpair]
    rw [Bool.and_eq_true] at hpair
    have hhigh : 0x7F ≤ high := by
      simp only [Text.isHighSurrogate, Bool.and_eq_true, decide_eq_true_eq] at hpair
      omega
    have hlow : 0x7F ≤ low := by
      simp only [Text.isLowSurrogate, Bool.and_eq_true, decide_eq_true_eq] at hpair
      omega
    simp only [List.forall_mem_cons] at hunits
    have hends : escapedUnits us ++ '"' :: rest ≠ [] := by simp
    have hread := textFrom_surrogates (hexUnit?_digitChar hunits.1) (hexUnit?_digitChar hunits.2.1)
      hpair.1 hpair.2 start position hends
    have hlength : (escapedUnits (high :: low :: us)).length = 12 + (escapedUnits us).length := by
      simp [escapedUnits_cons, toList_escapeUnit_of_le hhigh hunits.1,
        toList_escapeUnit_of_le hlow hunits.2.1]
      omega
    rw [hlength]
    simpa [escapedUnits_cons, toList_escapeUnit_of_le hhigh hunits.1,
      toList_escapeUnit_of_le hlow hunits.2.1, ih hunits.2.2, Except.map, Nat.add_assoc] using hread
  | case2 high low us hpair ih =>
    rw [Text.ofUnits, if_neg hpair]
    rw [List.forall_mem_cons] at hunits
    have halone : Text.isHighSurrogate high = false ∨
        NoLowSurrogate (escapedUnits (low :: us) ++ '"' :: rest) := by
      rw [Bool.and_eq_true, not_and_or, Bool.not_eq_true, Bool.not_eq_true] at hpair
      refine hpair.imp_right fun hlow => ?_
      rw [escapedUnits_cons, List.append_assoc]
      exact noLowSurrogate_escapeUnit (hunits.2 low List.mem_cons_self) hlow _ (by simp)
    rw [escapedUnits_cons, List.append_assoc,
      textFrom_escapeUnit hunits.1 (by simp) halone start position, ih hunits.2]
    simp [Except.map, Nat.add_assoc]
  | case3 us hshort =>
    rcases us with _ | ⟨unit, _ | ⟨low, us⟩⟩
    · simp [escapedUnits, textFrom, Text.ofUnits]
    · have hread := textFrom_escapeUnit (hunits unit List.mem_cons_self) (by simp)
        (.inr (noLowSurrogate_quote rest)) start position
      simpa [escapedUnits, Text.ofUnits, textFrom, Except.map] using hread
    · exact absurd rfl (hshort unit low us)

/-! ### Characters -/

/-- A character that stands as it is, or its escape, is read as that character. -/
theorem textFrom_escapeChar (c : Char) {rest : List Char} (hrest : rest ≠ [])
    (start position : Nat) :
    textFrom start position ((escapeChar c).toList ++ rest)
      = (textFrom start (position + (escapeChar c).toList.length) rest).map fun (cs, stop) =>
        (c :: cs, stop) := by
  unfold escapeChar
  split
  · next hshort => exact textFrom_shortForm hshort start position rest
  · next hshort =>
    split
    · next hcontrol =>
      have hunit : c.toNat < 0x10000 := by omega
      have hhigh : Text.isHighSurrogate c.toNat = false := by
        simp only [Text.isHighSurrogate, Bool.and_eq_false_iff, decide_eq_false_iff_not]
        omega
      have hread := textFrom_code (hexUnit?_digitChar hunit) hrest (.inl hhigh) start position
      rw [ofCode_of_lt (by omega), Char.ofNat_toNat] at hread
      rw [toList_unitCode hunit]
      exact hread
    · next hcontrol =>
      obtain ⟨hquote, hbackslash⟩ := ne_quote_of_shortForm hshort
      rw [Char.toString_eq_singleton, String.toList_singleton, List.singleton_append]
      exact textFrom_plain hquote hbackslash hcontrol start position rest

def escapedChars (cs : List Char) : List Char :=
  cs.flatMap fun c => (escapeChar c).toList

theorem textFrom_escapedChars (cs : List Char) (start position : Nat) (rest : List Char) :
    textFrom start position (escapedChars cs ++ '"' :: rest)
      = .ok (cs, position + (escapedChars cs).length + 1) := by
  induction cs generalizing position with
  | nil => simp [escapedChars, textFrom]
  | cons c cs ih =>
    have hsplit : escapedChars (c :: cs) = (escapeChar c).toList ++ escapedChars cs := rfl
    rw [hsplit, List.append_assoc, textFrom_escapeChar c (by simp) start position, ih]
    simp [Except.map, Nat.add_assoc]

/-! ### Texts -/

variable {style : Style}

theorem exists_toList_quote (style : Style) (s : String) :
    ∃ tail, (quote style s).toList = '"' :: tail := by
  simp [quote, String.toList_append]

theorem toList_quote_of_ascii (hascii : style.ascii = true) (s : String) :
    (quote style s).toList = '"' :: (escapedUnits (Text.units s.toList) ++ ['"']) := by
  simp [quote, hascii, escapedUnits, String.toList_append, String.toList_join, List.flatMap_map]

theorem toList_quote_plain (s : String) :
    (quote plain s).toList = '"' :: (escapedChars s.toList ++ ['"']) := by
  simp [quote, plain, escapedChars, String.toList_append, String.toList_join, List.flatMap_map]

theorem quote_joined (hascii : style.ascii = true) (s : String) :
    quote style (Text.joined s) = quote style s := by
  simp [quote, hascii, Text.units_joined]

/-- A quoted text and what follows it can be told apart, and the text is known but for surrogates that
make up a code point. -/
theorem quote_append_inj (hascii : style.ascii = true) {s t : String} {rest rest' : List Char}
    (h : (quote style s).toList ++ rest = (quote style t).toList ++ rest') :
    Text.joined s = Text.joined t ∧ rest = rest' := by
  simp only [toList_quote_of_ascii hascii, List.cons_append, List.append_assoc, List.nil_append,
    List.cons.injEq, true_and] at h
  have hread := textFrom_escapedUnits (@Text.units_lt s.toList) 0 0 rest
  rw [h, textFrom_escapedUnits Text.units_lt, Except.ok.injEq, Prod.mk.injEq] at hread
  have hjoined : Text.joined s = Text.joined t := congrArg String.ofList hread.1.symm
  have hunits : Text.units s.toList = Text.units t.toList := by
    rw [← Text.units_joined s, hjoined, Text.units_joined]
  rw [hunits] at h
  exact ⟨hjoined, (List.cons.inj (List.append_cancel_left h)).2⟩

end Runbook.Json
