import Runbook.Decimal.Shortest
import Runbook.Text.Code
import Runbook.Value

/-!
Values as JSON text. In one kind of style all but the printable ASCII characters is escaped by 16-bit
units, so that the text is plain ASCII; in the other, characters stand as they are, but for those that
have to be escaped. Numbers that JSON has no form for are written `NaN` and `Infinity`.
-/

namespace Runbook.Json

/-- The marks between two items and between a name and its value, and whether the text is ASCII. -/
structure Style where
  betweenItems : String
  afterName : String
  ascii : Bool

/-- For reading: a blank follows each mark. -/
def spaced : Style := ⟨", ", ": ", true⟩

def compact : Style := ⟨",", ":", true⟩

/-- For sending, as bytes in UTF-8. -/
def plain : Style := ⟨",", ":", false⟩

/-- A unit by its four hexadecimal digits. -/
def unitCode (unit : Nat) : String :=
  "\\u" ++ Text.hexCode 4 unit

/-- The escape of a character that has a short one. -/
def shortForm? : Char → Option String
  | '"' => some "\\\""
  | '\\' => some "\\\\"
  | '\n' => some "\\n"
  | '\r' => some "\\r"
  | '\t' => some "\\t"
  | '\x08' => some "\\b"
  | '\x0c' => some "\\f"
  | _ => none

/-- A unit in ASCII. -/
def escapeUnit (unit : Nat) : String :=
  match shortForm? (Char.ofNat unit) with
  | some escape => escape
  | none =>
    if 0x20 ≤ unit && unit < 0x7F then (Char.ofNat unit).toString else unitCode unit

/-- A character that stands as it is unless it has to be escaped. -/
def escapeChar (c : Char) : String :=
  match shortForm? c with
  | some escape => escape
  | none => if c.toNat < 0x20 then unitCode c.toNat else c.toString

def quote (style : Style) (s : String) : String :=
  let parts := if style.ascii then (Text.units s.toList).map escapeUnit else s.toList.map escapeChar
  "\"" ++ String.join parts ++ "\""

def numberText : Number → String
  | .int n => toString n
  | .double d => d.structuredText

mutual

def write (style : Style) : Value → String
  | .null => "null"
  | .bool b => if b then "true" else "false"
  | .number n => numberText n
  | .string s => quote style s
  | .list [] => "[]"
  | .list (v :: vs) => "[" ++ write style v ++ writeItems style vs ++ "]"
  | .object [] => "\x7b\x7d"
  | .object ((k, v) :: fs) =>
    "\x7b" ++ quote style k ++ style.afterName ++ write style v ++ writeFields style fs ++ "\x7d"

def writeItems (style : Style) : List Value → String
  | [] => ""
  | v :: vs => style.betweenItems ++ write style v ++ writeItems style vs

def writeFields (style : Style) : List (String × Value) → String
  | [] => ""
  | (k, v) :: fs =>
    style.betweenItems ++ quote style k ++ style.afterName ++ write style v ++ writeFields style fs

end

end Runbook.Json

namespace Runbook.Value

/-- The text of a value inside other text: a text stands for itself. -/
def stringify : Value → String
  | .string s => s
  | .bool b => if b then "true" else "false"
  | .null => "null"
  | .number (.int n) => toString n
  | .number (.double d) => d.plainText
  | v => Json.write Json.spaced v

end Runbook.Value
