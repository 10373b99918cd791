import Runbook.Proofs.Json.Quotation
import Runbook.Proofs.Json.Strict

/-!
# Written values can be told apart

The ASCII text of a value without floating-point numbers determines the value, but for surrogates that
make up a code point, and where the text ends. Its first character tells its shape, a text ends with its
quote, a list and an object with their brackets, and a number with the last digit, which neither a comma
nor a bracket continues. That what follows a value begins with one of these is carried along.
-/

namespace Runbook

/-- No floating-point number stands anywhere in the value. -/
def Value.DoubleFree (v : Value) : Prop :=
  ∀ d, ¬ Value.HasDouble d v

namespace Value

@[simp] theorem doubleFree_null : DoubleFree .null := by
  rintro d ⟨⟩

@[simp] theorem doubleFree_bool (b : Bool) : DoubleFree (.bool b) := by
  rintro d ⟨⟩

@[simp] theorem doubleFree_int (n : Int) : DoubleFree (.int n) := by
  rintro d ⟨⟩

@[simp] theorem doubleFree_string (s : String) : DoubleFree (.string s) := by
  rintro d ⟨⟩

@[simp] theorem not_doubleFree_double (d : Double) : ¬ DoubleFree (.number (.double d)) :=
  fun h => h d .number

@[simp] theorem doubleFree_list_iff {items : List Value} :
    DoubleFree (.list items) ↔ ∀ v ∈ items, v.DoubleFree := by
  simp only [DoubleFree, hasDouble_list_iff, not_exists, not_and]
  exact ⟨fun h v hv d => h d v hv, fun h d v hv => h v hv d⟩

@[simp] theorem doubleFree_object_iff {fields : Fields} :
    DoubleFree (.object fields) ↔ ∀ field ∈ fields, field.2.DoubleFree := by
  simp only [DoubleFree, hasDouble_object_iff, not_exists, not_and]
  exact ⟨fun h field hfield d => h d field hfield, fun h d field hfield => h field hfield d⟩

/-! ### Surrogates that make up a code point -/

mutual

/-- The value with its texts and names joined. -/
def joined : Value → Value
  | .null => .null
  | .bool b => .bool b
  | .number n => .number n
  | .string s => .string (Text.joined s)
  | .list items => .list (joinedItems items)
  | .object fields => .object (joinedFields fields)

def joinedItems : List Value → List Value
  | [] => []
  | v :: vs => v.joined :: joinedItems vs

def joinedFields : List (String × Value) → List (String × Value)
  | [] => []
  | (name, v) :: fields => (Text.joined name, v.joined) :: joinedFields fields

end

end Value

namespace Json

/-! ### Numerals -/

/-- The characters that numerals are made of. -/
def isNumeral (c : Char) : Bool :=
  c == '-' || c.isDigit

/-- What may follow a value: nothing, or what begins with a comma or a closing bracket. -/
def Follows (rest : List Char) : Prop :=
  ∀ c ∈ rest.head?, c = ',' ∨ c = ']' ∨ c = '}'

theorem follows_cons {c : Char} {rest : List Char} (hc : c = ',' ∨ c = ']' ∨ c = '}') :
    Follows (c :: rest) := by
  rintro _ ⟨⟩
  exact hc

theorem Follows.takeWhile_isNumeral {rest : List Char} (h : Follows rest) :
    rest.takeWhile isNumeral = [] := by
  cases rest with
  | nil => rfl
  | cons c rest =>
    have hc : isNumeral c = false := by
      rcases h c rfl with rfl | rfl | rfl <;> decide
    rw [List.takeWhile_cons, hc]
    rfl

theorem toList_toString_int (n : Int) :
    (toString n).toList
      = if 0 ≤ n then Nat.toDigits 10 n.toNat else '-' :: Nat.toDigits 10 (-n).toNat := by
  rw [Int.toString_eq_repr, Int.repr_eq_if]
  split <;> simp [Nat.toList_repr]

theorem isNumeral_of_mem_toString {n : Int} {c : Char} (h : c ∈ (toString n).toList) :
    isNumeral c = true := by
  have hdigit {m : Nat} (hc : c ∈ Nat.toDigits 10 m) : isNumeral c = true := by
    simp [isNumeral, Nat.isDigit_of_mem_toDigits (by decide) (by decide) hc]
  rw [toList_toString_int] at h
  split at h
  · exact hdigit h
  · rcases List.mem_cons.mp h with rfl | h
    · rfl
    · exact hdigit h

theorem toDigits_injective {m n : Nat} (h : Nat.toDigits 10 m = Nat.toDigits 10 n) : m = n := by
  calc m = Nat.ofDigitChars 10 (Nat.toDigits 10 m) 0 := Nat.ofDigitChars_ten_toDigits.symm
    _ = Nat.ofDigitChars 10 (Nat.toDigits 10 n) 0 := by rw [h]
    _ = n := Nat.ofDigitChars_ten_toDigits

theorem minus_not_mem_toDigits (n : Nat) : '-' ∉ Nat.toDigits 10 n := by
  intro h
  have hdigit := Nat.isDigit_of_mem_toDigits (by decide) (by decide) h
  revert hdigit
  decide

theorem toString_int_injective {m n : Int} (h : (toString m).toList = (toString n).toList) :
    m = n := by
  rw [toList_toString_int, toList_toString_int] at h
  by_cases hm : 0 ≤ m
  · by_cases hn : 0 ≤ n
    · rw [if_pos hm, if_pos hn] at h
      have := toDigits_injective h
      omega
    · rw [if_pos hm, if_neg hn] at h
      exact absurd (h ▸ List.mem_cons_self) (minus_not_mem_toDigits m.toNat)
  · by_cases hn : 0 ≤ n
    · rw [if_neg hm, if_pos hn] at h
      exact absurd (h ▸ List.mem_cons_self) (minus_not_mem_toDigits n.toNat)
    · rw [if_neg hm, if_neg hn] at h
      have := toDigits_injective (List.cons.inj h).2
      omega

/-- A numeral ends where what follows begins. -/
theorem toString_int_append_inj {m n : Int} {rest rest' : List Char} (hrest : Follows rest)
    (hrest' : Follows rest') (h : (toString m).toList ++ rest = (toString n).toList ++ rest') :
    m = n ∧ rest = rest' := by
  have hends {k : Int} {tail : List Char} (htail : Follows tail) :
      ((toString k).toList ++ tail).takeWhile isNumeral = (toString k).toList := by
    rw [List.takeWhile_append_of_pos fun _ hc => isNumeral_of_mem_toString hc,
      htail.takeWhile_isNumeral, List.append_nil]
  have htexts : (toString m).toList = (toString n).toList := by
    rw [← hends hrest, h, hends hrest']
  exact ⟨toString_int_injective htexts, List.append_cancel_left (htexts ▸ h)⟩

/-! ### The texts of values -/

variable {style : Style}

/-- The items of a list without its brackets. -/
def itemsText (style : Style) : List Value → List Char
  | [] => []
  | v :: vs => (write style v).toList ++ (writeItems style vs).toList

/-- The fields of an object without its brackets. -/
def fieldsText (style : Style) : List (String × Value) → List Char
  | [] => []
  | (k, v) :: fields =>
    (quote style k).toList ++ (style.afterName.toList
      ++ ((write style v).toList ++ (writeFields style fields).toList))

theorem toList_write_null : (write style .null).toList = ['n', 'u', 'l', 'l'] := by
  simp [write]

theorem toList_write_bool (b : Bool) :
    (write style (.bool b)).toList
      = if b then ['t', 'r', 'u', 'e'] else ['f', 'a', 'l', 's', 'e'] := by
  cases b <;> simp [write]

theorem toList_write_list (items : List Value) :
    (write style (.list items)).toList = '[' :: (itemsText style items ++ [']']) := by
  cases items <;> simp [write, itemsText]

theorem toList_write_object (fields : Value.Fields) :
    (write style (.object fields)).toList = '\x7b' :: (fieldsText style fields ++ ['\x7d']) := by
  rcases fields with _ | ⟨⟨k, v⟩, fields⟩ <;> simp [write, fieldsText]

/-! ### Shapes -/

/-- What the first character of a text tells about the value. -/
inductive Shape where
  | null
  | bool (b : Bool)
  | number
  | text
  | list
  | object

def Shape.of : Value → Shape
  | .null => .null
  | .bool b => .bool b
  | .number _ => .number
  | .string _ => .text
  | .list _ => .list
  | .object _ => .object

def Shape.ofFirst? (c : Char) : Option Shape :=
  if isNumeral c then some .number
  else match c with
    | 'n' => some .null
    | 't' => some (.bool true)
    | 'f' => some (.bool false)
    | '"' => some .text
    | '[' => some .list
    | '\x7b' => some .object
    | _ => none

theorem exists_first_of_write (style : Style) {v : Value} (hv : v.DoubleFree) :
    ∃ c tail, (write style v).toList = c :: tail ∧ Shape.ofFirst? c = some (.of v) := by
  cases v with
  | null => exact ⟨_, _, toList_write_null, rfl⟩
  | bool b => cases b <;> exact ⟨_, _, toList_write_bool _, rfl⟩
  | number n =>
    cases n with
    | double d => exact absurd hv (Value.not_doubleFree_double d)
    | int n =>
      have hne : (toString n).toList ≠ [] := by
        rw [toList_toString_int]
        split <;> simp [Nat.toDigits_ne_nil]
      obtain ⟨c, tail, htext⟩ := List.exists_cons_of_ne_nil hne
      have hc : isNumeral c = true := isNumeral_of_mem_toString (htext ▸ List.mem_cons_self)
      exact ⟨c, tail, htext, if_pos hc⟩
  | string s =>
    obtain ⟨tail, htext⟩ := exists_toList_quote style s
    exact ⟨_, _, htext, rfl⟩
  | list items => exact ⟨_, _, toList_write_list items, rfl⟩
  | object fields => exact ⟨_, _, toList_write_object fields, rfl⟩

/-- Values whose texts begin alike have one shape. -/
theorem shape_eq_of_write {v w : Value} (hv : v.DoubleFree) (hw : w.DoubleFree)
    {rest rest' : List Char}
    (h : (write style v).toList ++ rest = (write style w).toList ++ rest') :
    Shape.of v = Shape.of w := by
  obtain ⟨c, tail, hc, hshape⟩ := exists_first_of_write style hv
  obtain ⟨c', tail', hc', hshape'⟩ := exists_first_of_write style hw
  rw [hc, hc'] at h
  obtain rfl : c = c' := (List.cons.inj h).1
  exact Option.some.inj (hshape.symm.trans hshape')

/-- No value begins with what closes a list. -/
theorem write_append_ne_close {v : Value} (hv : v.DoubleFree) (rest tail : List Char) :
    (write style v).toList ++ rest ≠ ']' :: tail := by
  obtain ⟨c, first, hc, hshape⟩ := exists_first_of_write style hv
  rw [hc]
  intro h
  obtain rfl : c = ']' := (List.cons.inj h).1
  cases hshape

/-! ### Items and fields -/

/-- The mark between two items begins with a comma. -/
def Style.UsesComma (style : Style) : Prop :=
  ∃ tail, style.betweenItems.toList = ',' :: tail

theorem compact_usesComma : compact.UsesComma :=
  ⟨[], by simp [compact]⟩

theorem toList_writeItems_cons (v : Value) (vs : List Value) :
    (writeItems style (v :: vs)).toList
      = style.betweenItems.toList ++ itemsText style (v :: vs) := by
  simp [writeItems, itemsText]

theorem toList_writeFields_cons (field : String × Value) (fields : List (String × Value)) :
    (writeFields style (field :: fields)).toList
      = style.betweenItems.toList ++ fieldsText style (field :: fields) := by
  simp [writeFields, fieldsText]

theorem follows_writeItems (hstyle : style.UsesComma) (vs : List Value) {rest : List Char}
    (hrest : Follows rest) : Follows ((writeItems style vs).toList ++ rest) := by
  obtain ⟨tail, hbetween⟩ := hstyle
  cases vs with
  | nil => simpa [writeItems] using hrest
  | cons v vs =>
    rw [toList_writeItems_cons, hbetween]
    exact follows_cons (Or.inl rfl)

theorem follows_writeFields (hstyle : style.UsesComma) (fields : List (String × Value))
    {rest : List Char} (hrest : Follows rest) :
    Follows ((writeFields style fields).toList ++ rest) := by
  obtain ⟨tail, hbetween⟩ := hstyle
  cases fields with
  | nil => simpa [writeFields] using hrest
  | cons field fields =>
    rw [toList_writeFields_cons, hbetween]
    exact follows_cons (Or.inl rfl)

/-- Between brackets the first item is told from none, so that a mark may as well stand before it. -/
theorem writeItems_eq_of_itemsText_eq {vs ws : List Value} {rest rest' : List Char}
    (hv : ∀ v ∈ vs, v.DoubleFree) (hw : ∀ w ∈ ws, w.DoubleFree)
    (h : itemsText style vs ++ ']' :: rest = itemsText style ws ++ ']' :: rest') :
    (writeItems style vs).toList ++ ']' :: rest = (writeItems style ws).toList ++ ']' :: rest' := by
  cases vs with
  | nil =>
    cases ws with
    | nil => simpa [itemsText] using h
    | cons w ws =>
      rw [itemsText, itemsText, List.nil_append, List.append_assoc] at h
      exact absurd h.symm (write_append_ne_close (hw w List.mem_cons_self) _ _)
  | cons v vs =>
    cases ws with
    | nil =>
      rw [itemsText, itemsText, List.nil_append, List.append_assoc] at h
      exact absurd h (write_append_ne_close (hv v List.mem_cons_self) _ _)
    | cons w ws =>
      rw [toList_writeItems_cons, toList_writeItems_cons, List.append_assoc, h, List.append_assoc]

theorem writeFields_eq_of_fieldsText_eq {fields fields' : List (String × Value)}
    {rest rest' : List Char}
    (h : fieldsText style fields ++ '\x7d' :: rest = fieldsText style fields' ++ '\x7d' :: rest') :
    (writeFields style fields).toList ++ '\x7d' :: rest
      = (writeFields style fields').toList ++ '\x7d' :: rest' := by
  cases fields with
  | nil =>
    cases fields' with
    | nil => simpa [fieldsText] using h
    | cons field' fields' =>
      obtain ⟨tail, hname⟩ := exists_toList_quote style field'.1
      simp [fieldsText, hname] at h
  | cons field fields =>
    cases fields' with
    | nil =>
      obtain ⟨tail, hname⟩ := exists_toList_quote style field.1
      simp [fieldsText, hname] at h
    | cons field' fields' =>
      rw [toList_writeFields_cons, toList_writeFields_cons, List.append_assoc, h, List.append_assoc]

/-! ### Values -/

mutual

/-- The text of a value does not tell whether two surrogates that make up a code point stood alone. -/
theorem write_joined (hascii : style.ascii = true) :
    ∀ v : Value, write style v.joined = write style v
  | .null => rfl
  | .bool _ => rfl
  | .number _ => rfl
  | .string s => quote_joined hascii s
  | .list [] => rfl
  | .list (v :: vs) => by
    simp [Value.joined, Value.joinedItems, write, write_joined hascii v, writeItems_joined hascii vs]
  | .object [] => rfl
  | .object ((k, v) :: fields) => by
    simp [Value.joined, Value.joinedFields, write, quote_joined hascii k, write_joined hascii v,
      writeFields_joined hascii fields]

theorem writeItems_joined (hascii : style.ascii = true) :
    ∀ vs : List Value, writeItems style (Value.joinedItems vs) = writeItems style vs
  | [] => rfl
  | v :: vs => by
    simp [Value.joinedItems, writeItems, write_joined hascii v, writeItems_joined hascii vs]

theorem writeFields_joined (hascii : style.ascii = true) :
    ∀ fields : List (String × Value),
      writeFields style (Value.joinedFields fields) = writeFields style fields
  | [] => rfl
  | (k, v) :: fields => by
    simp [Value.joinedFields, writeFields, quote_joined hascii k, write_joined hascii v,
      writeFields_joined hascii fields]

end

mutual

/-- The text of a value determines the joined value and where the text ends. -/
theorem write_append_inj (hascii : style.ascii = true) (hstyle : style.UsesComma) :
    ∀ (v w : Value) (rest rest' : List Char),
      v.DoubleFree → w.DoubleFree → Follows rest → Follows rest' →
      (write style v).toList ++ rest = (write style w).toList ++ rest' →
      v.joined = w.joined ∧ rest = rest'
  | .null, w, rest, rest', hv, hw, _, _, h => by
    have hshape := shape_eq_of_write hv hw h
    cases w <;> cases hshape
    exact ⟨rfl, List.append_cancel_left h⟩
  | .bool b, w, rest, rest', hv, hw, _, _, h => by
    have hshape := shape_eq_of_write hv hw h
    cases w <;> cases hshape
    exact ⟨rfl, List.append_cancel_left h⟩
  | .number (.double d), _, _, _, hv, _, _, _, _ => absurd hv (Value.not_doubleFree_double d)
  | .number (.int n), w, rest, rest', hv, hw, hrest, hrest', h => by
    have hshape := shape_eq_of_write hv hw h
    cases w <;> cases hshape
    next number =>
      cases number with
      | double d => exact absurd hw (Value.not_doubleFree_double d)
      | int m =>
        obtain ⟨rfl, rfl⟩ := toString_int_append_inj hrest hrest' h
        exact ⟨rfl, rfl⟩
  | .string s, w, rest, rest', hv, hw, _, _, h => by
    have hshape := shape_eq_of_write hv hw h
    cases w <;> cases hshape
    next t =>
      obtain ⟨hjoined, rfl⟩ := quote_append_inj hascii h
      exact ⟨congrArg Value.string hjoined, rfl⟩
  | .list vs, w, rest, rest', hv, hw, _, _, h => by
    have hshape := shape_eq_of_write hv hw h
    cases w <;> cases hshape
    next ws =>
      rw [Value.doubleFree_list_iff] at hv hw
      simp only [toList_write_list, List.cons_append, List.append_assoc, List.nil_append,
        List.cons.injEq, true_and] at h
      obtain ⟨hjoined, rfl⟩ := writeItems_append_inj hascii hstyle vs ws rest rest' hv hw
        (writeItems_eq_of_itemsText_eq hv hw h)
      exact ⟨congrArg Value.list hjoined, rfl⟩
  | .object fields, w, rest, rest', hv, hw, _, _, h => by
    have hshape := shape_eq_of_write hv hw h
    cases w <;> cases hshape
    next fields' =>
      rw [Value.doubleFree_object_iff] at hv hw
      simp only [toList_write_object, List.cons_append, List.append_assoc, List.nil_append,
        List.cons.injEq, true_and] at h
      obtain ⟨hjoined, rfl⟩ := writeFields_append_inj hascii hstyle fields fields' rest rest' hv hw
        (writeFields_eq_of_fieldsText_eq h)
      exact ⟨congrArg Value.object hjoined, rfl⟩

theorem writeItems_append_inj (hascii : style.ascii = true) (hstyle : style.UsesComma) :
    ∀ (vs ws : List Value) (rest rest' : List Char),
      (∀ v ∈ vs, v.DoubleFree) → (∀ w ∈ ws, w.DoubleFree) →
      (writeItems style vs).toList ++ ']' :: rest = (writeItems style ws).toList ++ ']' :: rest' →
      Value.joinedItems vs = Value.joinedItems ws ∧ rest = rest'
  | [], [], rest, rest', _, _, h => ⟨rfl, (List.cons.inj (List.append_cancel_left h)).2⟩
  | [], w :: ws, rest, rest', _, _, h => by
    obtain ⟨tail, hbetween⟩ := hstyle
    simp [writeItems, hbetween] at h
  | v :: vs, [], rest, rest', _, _, h => by
    obtain ⟨tail, hbetween⟩ := hstyle
    simp [writeItems, hbetween] at h
  | v :: vs, w :: ws, rest, rest', hv, hw, h => by
    rw [List.forall_mem_cons] at hv hw
    simp only [toList_writeItems_cons, itemsText, List.append_assoc, List.append_cancel_left_eq] at h
    have hclose {tail : List Char} : Follows (']' :: tail) := follows_cons (Or.inr (Or.inl rfl))
    obtain ⟨hvalue, hitems⟩ := write_append_inj hascii hstyle v w _ _ hv.1 hw.1
      (follows_writeItems hstyle vs hclose) (follows_writeItems hstyle ws hclose) h
    obtain ⟨hjoined, rfl⟩ := writeItems_append_inj hascii hstyle vs ws rest rest' hv.2 hw.2 hitems
    exact ⟨by rw [Value.joinedItems, Value.joinedItems, hvalue, hjoined], rfl⟩

theorem writeFields_append_inj (hascii : style.ascii = true) (hstyle : style.UsesComma) :
    ∀ (fields fields' : List (String × Value)) (rest rest' : List Char),
      (∀ field ∈ fields, field.2.DoubleFree) → (∀ field ∈ fields', field.2.DoubleFree) →
      (writeFields style fields).toList ++ '\x7d' :: rest
        = (writeFields style fields').toList ++ '\x7d' :: rest' →
      Value.joinedFields fields = Value.joinedFields fields' ∧ rest = rest'
  | [], [], rest, rest', _, _, h => ⟨rfl, (List.cons.inj (List.append_cancel_left h)).2⟩
  | [], field :: fields, rest, rest', _, _, h => by
    obtain ⟨tail, hbetween⟩ := hstyle
    simp [writeFields, hbetween] at h
  | field :: fields, [], rest, rest', _, _, h => by
    obtain ⟨tail, hbetween⟩ := hstyle
    simp [writeFields, hbetween] at h
  | (k, v) :: fields, (l, w) :: fields', rest, rest', hv, hw, h => by
    rw [List.forall_mem_cons] at hv hw
    simp only [toList_writeFields_cons, fieldsText, List.append_assoc,
      List.append_cancel_left_eq] at h
    have hclose {tail : List Char} : Follows ('\x7d' :: tail) := follows_cons (Or.inr (Or.inr rfl))
    obtain ⟨hname, hrest⟩ := quote_append_inj hascii h
    obtain ⟨hvalue, hfields⟩ := write_append_inj hascii hstyle v w _ _ hv.1 hw.1
      (follows_writeFields hstyle fields hclose) (follows_writeFields hstyle fields' hclose)
      (List.append_cancel_left hrest)
    obtain ⟨hjoined, rfl⟩ :=
      writeFields_append_inj hascii hstyle fields fields' rest rest' hv.2 hw.2 hfields
    exact ⟨by rw [Value.joinedFields, Value.joinedFields, hname, hvalue, hjoined], rfl⟩

end

/-- Values have one text if they are alike once joined. -/
theorem write_eq_iff (hascii : style.ascii = true) (hstyle : style.UsesComma) {v w : Value}
    (hv : v.DoubleFree) (hw : w.DoubleFree) :
    write style v = write style w ↔ v.joined = w.joined := by
  constructor
  · intro h
    have hnone : Follows [] := by simp [Follows]
    exact (write_append_inj hascii hstyle v w [] [] hv hw hnone hnone (by rw [h])).1
  · intro h
    rw [← write_joined hascii v, h, write_joined hascii w]

end Json

end Runbook
