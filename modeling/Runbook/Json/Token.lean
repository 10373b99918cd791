import Runbook.Decimal.Reading
import Runbook.Text.Code
import Runbook.Value

/-!
The tokens of JSON text, each with the position of its first character. A token that is broken off
or malformed is still a token, so that a reader meets faults in the order of the text.
-/

namespace Runbook.Json

inductive Token where
  | openList
  | closeList
  | openObject
  | closeObject
  | comma
  | colon
  | text (s : String)
  | scalar (v : Value)
  /-- A text with a fault at the given position. -/
  | brokenText (fault : Nat)
  /-- A whole number with more digits than are read. -/
  | hugeInteger
  | unknown
deriving Repr

def isSpace (c : Char) : Bool :=
  c == ' ' || c == '\t' || c == '\n' || c == '\r'

def hexUnit? (a b c d : Char) : Option Nat := do
  let high := (← Text.hexValue? a) * 16 + (← Text.hexValue? b)
  return high * 256 + (← Text.hexValue? c) * 16 + (← Text.hexValue? d)

def shortEscape? : Char → Option Char
  | '"' => some '"'
  | '\\' => some '\\'
  | '/' => some '/'
  | 'b' => some '\x08'
  | 'f' => some '\x0c'
  | 'n' => some '\n'
  | 'r' => some '\r'
  | 't' => some '\t'
  | _ => none

/-- The rest of a text after its opening quote: its characters and the position after the closing
quote, or the position of a fault. A text without end is at fault where it begins, an escape at its
backslash, and a code at its `u`. The codes of two surrogates next to each other make up one code
point. -/
def textFrom (start : Nat) (position : Nat) : List Char → Except Nat (List Char × Nat)
  | [] => .error start
  | '"' :: _ => .ok ([], position + 1)
  | '\\' :: 'u' :: a :: b :: c :: d :: '\\' :: 'u' :: e :: f :: g :: h :: rest =>
    match hexUnit? a b c d with
    | none => .error (position + 1)
    | some high =>
      if Text.isHighSurrogate high then
        match hexUnit? e f g h with
        | none => .error (position + 7)
        | some low =>
          if Text.isLowSurrogate low then
            if rest.isEmpty then .error (position + 7)
            else (textFrom start (position + 12) rest).map fun (cs, stop) =>
              (Text.ofCode (Text.joinSurrogates high low) ++ cs, stop)
          else (textFrom start (position + 6) ('\\' :: 'u' :: e :: f :: g :: h :: rest)).map
            fun (cs, stop) => (Text.ofCode high ++ cs, stop)
      else (textFrom start (position + 6) ('\\' :: 'u' :: e :: f :: g :: h :: rest)).map
        fun (cs, stop) => (Text.ofCode high ++ cs, stop)
  | '\\' :: 'u' :: a :: b :: c :: d :: rest =>
    match hexUnit? a b c d with
    | none => .error (position + 1)
    | some unit =>
      if rest.isEmpty then .error (position + 1)
      else (textFrom start (position + 6) rest).map fun (cs, stop) =>
        (Text.ofCode unit ++ cs, stop)
  | '\\' :: 'u' :: _ => .error (position + 1)
  | '\\' :: c :: rest =>
    match shortEscape? c with
    | none => .error position
    | some escaped => (textFrom start (position + 2) rest).map fun (cs, stop) =>
      (escaped :: cs, stop)
  | ['\\'] => .error start
  | c :: rest =>
    if c.toNat < 0x20 then .error position
    else (textFrom start (position + 1) rest).map fun (cs, stop) => (c :: cs, stop)

/-- The digits at the head of a text and how many there are. -/
def digitsOf (cs : List Char) : List Nat :=
  (cs.takeWhile Char.isDigit).map fun c => c.toNat - '0'.toNat

/-- A number at the head of a text and its length. A fraction or a power of ten that is not complete
does not belong to it. -/
def numberOf? (cs : List Char) : Option (Number × Nat) :=
  let negative := cs.head? == some '-'
  let signed := if negative then 1 else 0
  let body := cs.drop signed
  let whole := if body.head? == some '0' then [0] else digitsOf body
  if whole.isEmpty then none
  else
    let afterWhole := body.drop whole.length
    let fraction := if afterWhole.head? == some '.' then digitsOf (afterWhole.drop 1) else []
    let fractionLength := if fraction.isEmpty then 0 else fraction.length + 1
    let afterFraction := afterWhole.drop fractionLength
    let marked := afterFraction.head? == some 'e' || afterFraction.head? == some 'E'
    let power := afterFraction.drop 1
    let powerSigned := power.head? == some '-' || power.head? == some '+'
    let powerSign := if powerSigned then 1 else 0
    let powerDigits := if marked then digitsOf (power.drop powerSign) else []
    let powerLength := if powerDigits.isEmpty then 0 else powerDigits.length + powerSign + 1
    let length := signed + whole.length + fractionLength + powerLength
    if fraction.isEmpty && powerDigits.isEmpty then
      let n : Int := Decimal.digitsValue whole
      some (.int (if negative then -n else n), length)
    else
      let size : Int := Decimal.digitsValue powerDigits
      let exponent := if power.head? == some '-' then -size else size
      some (.double (.ofDecimal negative (Decimal.digitsValue (whole ++ fraction))
        (exponent - fraction.length)), length)

/-- The words that stand for values, the special numbers among them. -/
def words : List (String × Value) := [
  ("null", .null), ("true", .bool true), ("false", .bool false),
  ("NaN", .double (.nan true)), ("Infinity", .double (.infinite false)),
  ("-Infinity", .double (.infinite true))]

/-- The token at the head of a text that is not blank there, and its length. -/
def tokenAt (position : Nat) (cs : List Char) : Token × Nat :=
  match cs with
  | [] => (.unknown, 0)
  | c :: rest =>
    match c with
    | '[' => (.openList, 1)
    | ']' => (.closeList, 1)
    | '{' => (.openObject, 1)
    | '}' => (.closeObject, 1)
    | ',' => (.comma, 1)
    | ':' => (.colon, 1)
    | '"' => match textFrom position (position + 1) rest with
      | .ok (text, stop) => (.text (String.ofList text), stop - position)
      | .error fault => (.brokenText fault, cs.length)
    | _ => match words.find? fun word => word.1.toList.isPrefixOf cs with
      | some (word, v) => (.scalar v, word.length)
      | none => match numberOf? cs with
        | some (.int n, length) =>
          let digits := if c == '-' then length - 1 else length
          (if Decimal.digitLimit < digits then .hugeInteger else .scalar (.int n), length)
        | some (n, length) => (.scalar (.number n), length)
        | none => (.unknown, 1)

/-- All tokens of a text with their positions; `skip` characters belong to the token before. -/
def tokens (position skip : Nat) : List Char → List (Nat × Token)
  | [] => []
  | c :: rest =>
    match skip with
    | skip + 1 => tokens (position + 1) skip rest
    | 0 =>
      if isSpace c then tokens (position + 1) 0 rest
      else
        let (token, length) := tokenAt position (c :: rest)
        (position, token) :: tokens (position + 1) (length - 1) rest

end Runbook.Json
