import Runbook.Double
import Runbook.Text.Blank
import Runbook.Text.Digit

/-!
Reading decimal numbers from text.
-/

namespace Runbook.Decimal

/-- The value of a row of digits, the first the highest. -/
def digitsValue (digits : List Nat) : Nat :=
  digits.foldl (fun value digit => 10 * value + digit) 0

/-- The digits at the head of a text, and what follows them. A single underscore may stand between
two digits. -/
def digitRun (digit? : Char → Option Nat) (afterDigit : Bool) : List Char → List Nat × List Char
  | [] => ([], [])
  | c :: rest =>
    match digit? c with
    | some d =>
      let (ds, left) := digitRun digit? true rest
      (d :: ds, left)
    | none =>
      if c == '_' && afterDigit && (rest.head?.bind digit?).isSome then digitRun digit? false rest
      else ([], c :: rest)

/-- The sign at the head of a text, true for a minus, and what follows it. -/
def signOf : List Char → Bool × List Char
  | '-' :: rest => (true, rest)
  | '+' :: rest => (false, rest)
  | cs => (false, cs)

/-- A power of ten such as `e-7` that fills the rest of the text; none is the power zero. -/
def exponentOf? (digit? : Char → Option Nat) : List Char → Option Int
  | [] => some 0
  | c :: rest =>
    if c == 'e' || c == 'E' then
      let (negative, rest) := signOf rest
      match digitRun digit? false rest with
      | ([], _) => none
      | (ds, []) => some (if negative then -(digitsValue ds : Int) else digitsValue ds)
      | _ => none
    else none

/-- An unsigned decimal with at least one digit, a point and an exponent being optional. -/
def decimalOf? (digit? : Char → Option Nat) (negative : Bool) (cs : List Char) : Option Double :=
  let (whole, rest) := digitRun digit? false cs
  let (fraction, rest) := match rest with
    | '.' :: rest => digitRun digit? false rest
    | rest => ([], rest)
  if whole.isEmpty && fraction.isEmpty then none
  else (exponentOf? digit? rest).map fun exponent =>
    .ofDecimal negative (digitsValue (whole ++ fraction)) (exponent - fraction.length)

/-- A signed decimal, an infinity or the number that is not one, in any letter case. -/
def double? (digit? : Char → Option Nat) (cs : List Char) : Option Double :=
  let (negative, rest) := signOf cs
  let word := String.ofList (rest.map Char.toLower)
  if word == "inf" || word == "infinity" then some (.infinite negative)
  else if word == "nan" then some (.nan false)
  else decimalOf? digit? negative rest

/-- The number that a text holds between blanks, in the digits of any script. -/
def ofText? (s : String) : Option Double :=
  double? Text.digitValue? (Text.trimBlank s.toList)

/-- Whole numbers with more digits than this are not read. -/
def digitLimit : Nat := 4300

/-- A signed whole number that fills a text, in the digits of any script. -/
def signedInteger? (cs : List Char) : Option Int :=
  let (negative, rest) := signOf cs
  match digitRun Text.digitValue? false rest with
  | ([], _) => none
  | (ds, []) =>
    if digitLimit < ds.length then none
    else some (if negative then -(digitsValue ds : Int) else digitsValue ds)
  | _ => none

/-- The whole number that a text holds with padding around it. -/
def integerOf? (cs : List Char) : Option Int :=
  signedInteger? (Text.trimPadding cs)

end Runbook.Decimal
