/-!
Texts as sequences of code points. A code point may be a surrogate that stands alone, which no character
is. In a text it is written with three of the last of all characters: a mark, and the two digits of its
number to the base 2048. The characters that serve as mark and digits are themselves written in this
way. So every sequence of code points has its own text, texts are joined and searched as the sequences
are, and a text without any of these characters stands for its characters.
-/

namespace Runbook.Text

/-! ### Surrogates -/

def isHighSurrogate (code : Nat) : Bool := 0xD800 ≤ code && code < 0xDC00

def isLowSurrogate (code : Nat) : Bool := 0xDC00 ≤ code && code < 0xE000

def isSurrogate (code : Nat) : Bool := isHighSurrogate code || isLowSurrogate code

/-- The code point that two surrogates make up. -/
def joinSurrogates (high low : Nat) : Nat :=
  0x10000 + (high - 0xD800) * 0x400 + (low - 0xDC00)

/-! ### Code points in texts -/

/-- The characters from this one on serve as mark and digits. -/
def firstReserved : Nat := 0x10F000

def codeMark : Char := Char.ofNat 0x10FFFF

def codeDigit (n : Nat) : Char := Char.ofNat (firstReserved + n)

def isCodeDigit (c : Char) : Bool := firstReserved ≤ c.toNat && c.toNat < firstReserved + 2048

def codeDigitValue (c : Char) : Nat := c.toNat - firstReserved

/-- A code point as it is written in a text. -/
def ofCode (code : Nat) : List Char :=
  if isSurrogate code || firstReserved ≤ code then
    [codeMark, codeDigit (code / 2048), codeDigit (code % 2048)]
  else [Char.ofNat code]

def ofCodes (codes : List Nat) : List Char :=
  codes.flatMap ofCode

/-- The code points of a text. -/
def codes : List Char → List Nat
  | a :: b :: c :: rest =>
    if a = codeMark ∧ isCodeDigit b ∧ isCodeDigit c then
      (codeDigitValue b * 2048 + codeDigitValue c) :: codes rest
    else a.toNat :: codes (b :: c :: rest)
  | cs => cs.map Char.toNat

/-- How many code points a text has. -/
def length (s : String) : Nat :=
  (codes s.toList).length

/-- Whether a text occurs in another one. -/
def occursIn (part whole : List Char) : Bool :=
  match whole with
  | [] => part.isEmpty
  | _ :: rest => part.isPrefixOf whole || occursIn part rest

/-! ### 16-bit units -/

/-- The units of a code point; one beyond the first 65,536 has two, which are surrogates. -/
def unitsOf (code : Nat) : List Nat :=
  if code < 0x10000 then [code]
  else [0xD800 + (code - 0x10000) / 0x400, 0xDC00 + (code - 0x10000) % 0x400]

def units (cs : List Char) : List Nat :=
  (codes cs).flatMap unitsOf

/-- The text of units; two surrogates that make up a code point are read as that one. -/
def ofUnits : List Nat → List Char
  | high :: low :: rest =>
    if isHighSurrogate high && isLowSurrogate low then
      ofCode (joinSurrogates high low) ++ ofUnits rest
    else ofCode high ++ ofUnits (low :: rest)
  | units => units.flatMap ofCode

/-- The text with any two surrogates in it that make up a code point read as that one. -/
def joined (s : String) : String :=
  String.ofList (ofUnits (units s.toList))

/-! ### Encoders -/

/-- A code in hexadecimal with the given width. -/
def hexCode (width code : Nat) : String :=
  let digits := Nat.toDigits 16 code
  String.ofList (List.replicate (width - digits.length) '0' ++ digits)

/-- A code point by its number, in the shortest of three forms. -/
def escapedCode (code : Nat) : String :=
  if code < 0x100 then "\\x" ++ hexCode 2 code
  else if code < 0x10000 then "\\u" ++ hexCode 4 code
  else "\\U" ++ hexCode 8 code

/-- The complaint of an encoder about the first code points of a text that it has no form for. -/
def complaint? (codec reason : String) (fits : Nat → Bool) (codes : List Nat) : Option String :=
  let start := (codes.takeWhile fits).length
  match (codes.dropWhile fits).takeWhile fun code => !fits code with
  | [] => none
  | [code] =>
    let shown := escapedCode code
    some (s!"'{codec}' codec can't encode character '{shown}' in position {start}: {reason}")
  | others =>
    let last := start + others.length - 1
    some (s!"'{codec}' codec can't encode characters in position {start}-{last}: {reason}")

/-- Whether a text has a form in UTF-8: no surrogate stands alone in it. -/
def isEncodable (s : String) : Bool :=
  (codes s.toList).all fun code => !isSurrogate code

def utf8Complaint? (s : String) : Option String :=
  complaint? "utf-8" "surrogates not allowed" (fun code => !isSurrogate code) (codes s.toList)

def asciiComplaint? (s : String) : Option String :=
  complaint? "ascii" "ordinal not in range(128)" (· < 128) (codes s.toList)

end Runbook.Text
