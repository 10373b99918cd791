import Mathlib.Data.List.TakeWhile
import Runbook.Text.Code

/-!
# Texts and their code points

Every sequence of code points has a text from which it is read back, whatever characters follow. What
stands before a character that is no digit of a code is read for itself, so that the quotes and marks
around a text do not change it.
-/

namespace Runbook.Text

/-! ### Characters of texts -/

theorem toNat_ofNat {code : Nat} (hlow : code < 0xD800 ∨ 0xDFFF < code) (hhigh : code < 0x110000) :
    (Char.ofNat code).toNat = code := by
  have hvalid : code.isValidChar := hlow.imp_right fun h => ⟨h, hhigh⟩
  rw [Char.ofNat, dif_pos hvalid]
  rfl

theorem isSurrogate_eq_false_iff {code : Nat} :
    isSurrogate code = false ↔ code < 0xD800 ∨ 0xDFFF < code := by
  simp only [isSurrogate, isHighSurrogate, isLowSurrogate, Bool.or_eq_false_iff,
    Bool.and_eq_false_iff, decide_eq_false_iff_not]
  omega

theorem isSurrogate_toNat (c : Char) : isSurrogate c.toNat = false :=
  isSurrogate_eq_false_iff.mpr (c.valid.imp_right fun h => h.1)

theorem toNat_codeMark : codeMark.toNat = 0x10FFFF :=
  toNat_ofNat (by decide) (by decide)

theorem toNat_codeDigit {n : Nat} (h : n < 2048) : (codeDigit n).toNat = firstReserved + n :=
  toNat_ofNat (by unfold firstReserved; omega) (by unfold firstReserved; omega)

theorem isCodeDigit_codeDigit {n : Nat} (h : n < 2048) : isCodeDigit (codeDigit n) = true := by
  simp [isCodeDigit, toNat_codeDigit h, h]

theorem codeDigitValue_codeDigit {n : Nat} (h : n < 2048) : codeDigitValue (codeDigit n) = n := by
  simp [codeDigitValue, toNat_codeDigit h]

/-! ### Reading code points -/

theorem codes_cons_of_ne {c : Char} (h : c ≠ codeMark) (rest : List Char) :
    codes (c :: rest) = c.toNat :: codes rest := by
  rcases rest with _ | ⟨a, _ | ⟨b, rest⟩⟩ <;> simp [codes, h]

theorem codes_append_of_forall_ne {cs : List Char} (h : ∀ c ∈ cs, c ≠ codeMark)
    (rest : List Char) : codes (cs ++ rest) = cs.map Char.toNat ++ codes rest := by
  induction cs with
  | nil => rfl
  | cons c cs ih =>
    rw [List.forall_mem_cons] at h
    rw [List.cons_append, codes_cons_of_ne h.1, ih h.2]
    rfl

/-- A mark that no two digits follow is a character as any other. -/
theorem codes_cons_of_not_digits {c : Char} {rest : List Char}
    (h : ∀ a b tail, rest = a :: b :: tail → ¬ (isCodeDigit a = true ∧ isCodeDigit b = true)) :
    codes (c :: rest) = c.toNat :: codes rest := by
  rcases rest with _ | ⟨a, _ | ⟨b, rest⟩⟩
  · rfl
  · rfl
  · have hdigits := h a b rest rfl
    rw [codes, if_neg fun hcode => hdigits hcode.2]

/-- What is no digit of a code ends what stands before it. -/
theorem codes_append_of_head {rest : List Char} (h : ∀ c ∈ rest.head?, isCodeDigit c = false)
    (cs : List Char) : codes (cs ++ rest) = codes cs ++ codes rest := by
  induction cs using codes.induct with
  | case1 a b c cs hcode ih =>
    simp only [List.cons_append]
    rw [codes, if_pos hcode, codes, if_pos hcode, ih]
    rfl
  | case2 a b c cs hcode ih =>
    simp only [List.cons_append] at ih ⊢
    rw [codes, if_neg hcode, codes, if_neg hcode, ih]
    rfl
  | case3 cs hshort =>
    have hnone (c : Char) (tail : List Char) (hrest : rest = c :: tail) : isCodeDigit c = false :=
      h c (by rw [hrest]; rfl)
    rcases cs with _ | ⟨a, _ | ⟨b, _ | ⟨c, cs⟩⟩⟩
    · rfl
    · refine codes_cons_of_not_digits fun c d tail hrest hdigits => ?_
      rw [hnone c _ hrest] at hdigits
      cases hdigits.1
    · have hlast : codes (b :: rest) = b.toNat :: codes rest :=
        codes_cons_of_not_digits fun c d tail hrest hdigits => by
          rw [hnone c _ hrest] at hdigits
          cases hdigits.1
      have hfirst : codes (a :: b :: rest) = a.toNat :: codes (b :: rest) :=
        codes_cons_of_not_digits fun c d tail hrest hdigits => by
          rw [hnone d tail (List.cons.inj hrest).2] at hdigits
          cases hdigits.2
      simp only [List.cons_append, List.nil_append]
      rw [hfirst, hlast]
      rfl
    · exact absurd rfl (hshort a b c cs)

theorem codes_ofCode_append {code : Nat} (h : code < 0x110000) (rest : List Char) :
    codes (ofCode code ++ rest) = code :: codes rest := by
  unfold ofCode
  split
  · have hhigh : code / 2048 < 2048 := by omega
    have hlow : code % 2048 < 2048 := Nat.mod_lt _ (by decide)
    have hdigits : codeMark = codeMark ∧ isCodeDigit (codeDigit (code / 2048)) = true ∧
        isCodeDigit (codeDigit (code % 2048)) = true :=
      ⟨rfl, isCodeDigit_codeDigit hhigh, isCodeDigit_codeDigit hlow⟩
    simp only [List.cons_append, List.nil_append]
    rw [codes, if_pos hdigits, codeDigitValue_codeDigit hhigh, codeDigitValue_codeDigit hlow]
    congr 1
    omega
  · next hplain =>
    rw [Bool.or_eq_true, not_or, Bool.not_eq_true, decide_eq_true_eq] at hplain
    have hvalue : (Char.ofNat code).toNat = code :=
      toNat_ofNat (isSurrogate_eq_false_iff.mp hplain.1) h
    have hne : Char.ofNat code ≠ codeMark := by
      intro heq
      have hcode := congrArg Char.toNat heq
      rw [hvalue, toNat_codeMark] at hcode
      exact hplain.2 (by rw [hcode]; decide)
    rw [List.singleton_append, codes_cons_of_ne hne, hvalue]

/-- Every sequence of code points is read back from its text. -/
theorem codes_ofCodes {l : List Nat} (h : ∀ code ∈ l, code < 0x110000) :
    codes (ofCodes l) = l := by
  induction l with
  | nil => rfl
  | cons code l ih =>
    rw [List.forall_mem_cons] at h
    rw [ofCodes, List.flatMap_cons, codes_ofCode_append h.1, ← ofCodes, ih h.2]

/-! ### Characters of ASCII -/

def IsAscii (cs : List Char) : Prop :=
  ∀ c ∈ cs, c.toNat < 0x80

instance (cs : List Char) : Decidable (IsAscii cs) :=
  List.decidableBAll _ cs

theorem isAscii_append {cs ds : List Char} (hcs : IsAscii cs) (hds : IsAscii ds) :
    IsAscii (cs ++ ds) :=
  List.forall_mem_append.mpr ⟨hcs, hds⟩

theorem isAscii_text_append {s t : String} (hs : IsAscii s.toList) (ht : IsAscii t.toList) :
    IsAscii (s ++ t).toList := by
  rw [String.toList_append]
  exact isAscii_append hs ht

theorem isAscii_of_forall_isDigit {cs : List Char} (h : ∀ c ∈ cs, c.isDigit = true) : IsAscii cs := by
  intro c hc
  have hdigit := h c hc
  simp only [Char.isDigit, Bool.and_eq_true, decide_eq_true_eq, UInt32.le_iff_toNat_le] at hdigit
  have hbound : c.toNat ≤ 57 := hdigit.2
  omega

theorem IsAscii.isCodeDigit_eq_false {cs : List Char} (h : IsAscii cs) {c : Char} (hc : c ∈ cs) :
    isCodeDigit c = false := by
  have hcode := h c hc
  simp only [isCodeDigit, Bool.and_eq_false_iff, decide_eq_false_iff_not]
  unfold firstReserved
  omega

theorem IsAscii.codes_append {cs : List Char} (h : IsAscii cs) (rest : List Char) :
    codes (cs ++ rest) = cs.map Char.toNat ++ codes rest := by
  refine codes_append_of_forall_ne (fun c hc hmark => ?_) rest
  have hcode := h c hc
  rw [hmark, toNat_codeMark] at hcode
  omega

/-! ### 16-bit units -/

theorem codes_lt {cs : List Char} : ∀ code ∈ codes cs, code < 2048 * 2048 := by
  have htoNat (c : Char) : c.toNat < 2048 * 2048 := by
    have hvalid := c.valid
    change c.toNat < 0xD800 ∨ 0xDFFF < c.toNat ∧ c.toNat < 0x110000 at hvalid
    omega
  induction cs using codes.induct with
  | case1 a b c cs hcode ih =>
    rw [codes, if_pos hcode, List.forall_mem_cons]
    refine ⟨?_, ih⟩
    simp only [isCodeDigit, codeDigitValue, Bool.and_eq_true, decide_eq_true_eq] at hcode ⊢
    omega
  | case2 a b c cs hcode ih =>
    rw [codes, if_neg hcode, List.forall_mem_cons]
    exact ⟨htoNat a, ih⟩
  | case3 cs hshort =>
    rw [codes]
    · simpa using fun c _ => htoNat c
    · exact hshort

theorem units_lt {cs : List Char} : ∀ unit ∈ units cs, unit < 0x10000 := by
  intro unit hunit
  obtain ⟨code, hcode, hunit⟩ := List.mem_flatMap.mp hunit
  have hbound := codes_lt code hcode
  unfold unitsOf at hunit
  split at hunit
  · obtain rfl := List.mem_singleton.mp hunit
    assumption
  · simp only [List.mem_cons, List.not_mem_nil, or_false] at hunit
    omega

theorem joinSurrogates_lt {high low : Nat} (hhigh : isHighSurrogate high = true)
    (hlow : isLowSurrogate low = true) : joinSurrogates high low < 0x110000 := by
  simp only [isHighSurrogate, isLowSurrogate, Bool.and_eq_true, decide_eq_true_eq] at hhigh hlow
  unfold joinSurrogates
  omega

theorem unitsOf_joinSurrogates {high low : Nat} (hhigh : isHighSurrogate high = true)
    (hlow : isLowSurrogate low = true) : unitsOf (joinSurrogates high low) = [high, low] := by
  simp only [isHighSurrogate, isLowSurrogate, Bool.and_eq_true, decide_eq_true_eq] at hhigh hlow
  have hbound : ¬ joinSurrogates high low < 0x10000 := by
    unfold joinSurrogates
    omega
  have hfirst : 0xD800 + (joinSurrogates high low - 0x10000) / 0x400 = high := by
    unfold joinSurrogates
    omega
  have hsecond : 0xDC00 + (joinSurrogates high low - 0x10000) % 0x400 = low := by
    unfold joinSurrogates
    omega
  rw [unitsOf, if_neg hbound, hfirst, hsecond]

theorem units_ofCode_append {code : Nat} (h : code < 0x110000) (rest : List Char) :
    units (ofCode code ++ rest) = unitsOf code ++ units rest := by
  rw [units, codes_ofCode_append h, List.flatMap_cons, ← units]

/-- Reading two surrogates as one code point loses no unit. -/
theorem units_ofUnits {us : List Nat} (h : ∀ unit ∈ us, unit < 0x10000) :
    units (ofUnits us) = us := by
  have hsingle {unit : Nat} (hunit : unit < 0x10000) (rest : List Char) :
      units (ofCode unit ++ rest) = unit :: units rest := by
    rw [units_ofCode_append (by omega), unitsOf, if_pos hunit]
    rfl
  induction us using ofUnits.induct with
  | case1 high low rest hpair ih =>
    rw [ofUnits, if_pos hpair]
    rw [Bool.and_eq_true] at hpair
    simp only [List.forall_mem_cons] at h
    rw [units_ofCode_append (joinSurrogates_lt hpair.1 hpair.2),
      unitsOf_joinSurrogates hpair.1 hpair.2, ih h.2.2]
    rfl
  | case2 high low rest hpair ih =>
    rw [ofUnits, if_neg hpair]
    rw [List.forall_mem_cons] at h
    rw [hsingle h.1, ih h.2]
  | case3 us hshort =>
    rcases us with _ | ⟨unit, _ | ⟨low, rest⟩⟩
    · rfl
    · simpa [ofUnits, units, codes] using hsingle (h unit List.mem_cons_self) []
    · exact absurd rfl (hshort unit low rest)

theorem units_joined (s : String) : units (joined s).toList = units s.toList := by
  rw [joined, String.toList_ofList, units_ofUnits units_lt]

/-! ### Encoders -/

theorem complaint?_eq_none_iff {codec reason : String} {fits : Nat → Bool} {l : List Nat} :
    complaint? codec reason fits l = none ↔ l.all fits = true := by
  have hfirst : complaint? codec reason fits l = none ↔
      (l.dropWhile fits).takeWhile (fun code => !fits code) = [] := by
    unfold complaint?
    cases (l.dropWhile fits).takeWhile fun code => !fits code with
    | nil => simp
    | cons code others => cases others <;> simp
  rw [hfirst, List.all_eq_true]
  cases hrest : l.dropWhile fits with
  | nil => simpa using List.dropWhile_eq_nil_iff.mp hrest
  | cons code rest =>
    have hcode : fits code = false := by
      have hhead := List.head_dropWhile_not fits (l := l) (by simp [hrest])
      simpa [hrest] using hhead
    have hmem : code ∈ l := (List.dropWhile_sublist fits).subset (hrest ▸ List.mem_cons_self)
    simp only [List.takeWhile_cons, hcode, Bool.not_false, if_true, reduceCtorEq, false_iff]
    exact fun hall => by simp [hall code hmem] at hcode

/-- No surrogate stands alone among the characters. -/
def Encodable (cs : List Char) : Prop :=
  ∀ code ∈ codes cs, isSurrogate code = false

theorem isEncodable_iff {s : String} : isEncodable s = true ↔ Encodable s.toList := by
  simp [isEncodable, Encodable]

theorem IsAscii.encodable_append_iff {cs : List Char} (h : IsAscii cs) (rest : List Char) :
    Encodable (cs ++ rest) ↔ Encodable rest := by
  have hcs : ∀ code ∈ cs.map Char.toNat, isSurrogate code = false := by
    simpa using fun c _ => isSurrogate_toNat c
  rw [Encodable, h.codes_append, List.forall_mem_append]
  exact and_iff_right hcs

theorem utf8Complaint?_eq_none_iff {s : String} :
    utf8Complaint? s = none ↔ isEncodable s = true :=
  complaint?_eq_none_iff

end Runbook.Text
