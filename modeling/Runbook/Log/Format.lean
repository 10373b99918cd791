import Runbook.Decimal.Places
import Runbook.Failure
import Runbook.Value.Literal

/-!
Texts with directives, each of which stands for an argument. A directive begins with a percent sign
and says how the argument is written and laid out.
-/

namespace Runbook.Format

/-! ### Arguments -/

/-- What a text is filled in with: values one after another, or one value that may be looked into. -/
inductive Arguments where
  | row (values : List Value)
  | single (v : Value)
deriving Repr

/-- The arguments that are left: a value to look names up in, and the next values to take. -/
structure Supply where
  named : Option Value
  next : List Value

def typeFailure (message : String) : Failure :=
  .other "TypeError" message

def valueFailure (message : String) : Failure :=
  .other "ValueError" message

def overflow (message : String) : Failure :=
  .other "OverflowError" message

def incomplete : Failure :=
  valueFailure "incomplete format"

namespace Supply

def ofArguments : Arguments → Supply
  | .row values => { named := none, next := values }
  | .single v => {
      named := match v with
        | .list _ => some v
        | .object _ => some v
        | _ => none
      next := [v] }

def take (supply : Supply) : Except Failure (Value × Supply) :=
  match supply.next with
  | v :: next => .ok (v, { supply with next })
  | [] => .error (typeFailure "not enough arguments for format string")

/-- Makes the value of a name the next one to take. -/
def lookUp (supply : Supply) (name : String) : Except Failure Supply :=
  match supply.named with
  | some (.object fields) => match Entries.get? fields name with
    | some v => .ok { supply with next := [v] }
    | none => .error (.other "KeyError" (Value.showText name))
  | some _ => .error (typeFailure "list indices must be integers or slices, not str")
  | none => .error (typeFailure "format requires a mapping")

def surplus : Failure :=
  typeFailure "not all arguments converted during string formatting"

/-- After a directive nothing may be left of a value that was looked up. -/
def checkDirective (supply : Supply) : Except Failure Unit :=
  if supply.named.isSome && !supply.next.isEmpty then .error surplus else .ok ()

/-- After the text nothing may be left of a row. -/
def checkEnd (supply : Supply) : Except Failure Unit :=
  if supply.named.isNone && !supply.next.isEmpty then .error surplus else .ok ()

end Supply

/-! ### Reading a directive -/

structure Directive where
  leftAligned : Bool
  signed : Bool
  spaced : Bool
  alternate : Bool
  zeroFilled : Bool
  width : Option Nat
  precision : Option Nat
  conversion : Char
deriving Repr

/-- What was read, with what is left of the text and of its arguments. -/
abbrev Reading (α : Type) := α × List Char × Supply

/-- The length of a name in parentheses, whose own parentheses are balanced; `depth` of them are
open. -/
def nameLength? (depth : Nat) : List Char → Option Nat
  | [] => none
  | ')' :: rest => match depth with
    | 0 => some 0
    | depth + 1 => (nameLength? depth rest).map (· + 1)
  | '(' :: rest => (nameLength? (depth + 1) rest).map (· + 1)
  | _ :: rest => (nameLength? depth rest).map (· + 1)

/-- Looks up the name of an argument, if a directive gives one. -/
def readName (cs : List Char) (supply : Supply) : Except Failure (List Char × Supply) :=
  match cs with
  | '(' :: rest =>
    if supply.named.isNone then .error (typeFailure "format requires a mapping")
    else match nameLength? 0 rest with
      | none => .error (valueFailure "incomplete format key")
      | some n => (supply.lookUp (String.ofList (rest.take n))).map fun supply =>
        (rest.drop (n + 1), supply)
  | _ => .ok (cs, supply)

/-- The greatest width and the greatest precision. -/
def widthLimit : Nat := 9223372036854775807

def precisionLimit : Nat := 2147483647

/-- A number in a directive: its digits, or a star for the next argument. -/
def readMeasure (limit : Nat) (tooBig tooLarge : String) (cs : List Char) (supply : Supply) :
    Except Failure (Reading (Option Int)) :=
  match cs with
  | '*' :: rest => do
    let (v, supply) ← supply.take
    match v with
    | .bool b => return (some (if b then 1 else 0), rest, supply)
    | .number (.int n) =>
      if limit < n ∨ n < -(limit : Int) - 1 then
        throw (overflow s!"Python int too large to convert to C {tooLarge}")
      else return (some n, rest, supply)
    | _ => throw (typeFailure "* wants int")
  | _ =>
    let digits := cs.takeWhile Char.isDigit
    if digits.isEmpty then .ok (none, cs, supply)
    else
      let n := digits.foldl (fun n c => 10 * n + (c.toNat - '0'.toNat)) 0
      if limit < n then .error (valueFailure tooBig)
      else .ok (some n, cs.drop digits.length, supply)

def readPrecision (cs : List Char) (supply : Supply) :
    Except Failure (Reading (Option Nat)) :=
  match cs with
  | '.' :: rest => (readMeasure precisionLimit "precision too big" "int" rest supply).map
    fun (n, rest, supply) => (some (n.getD 0).toNat, rest, supply)
  | _ => .ok (none, cs, supply)

/-- A directive after its percent sign. -/
def readDirective (cs : List Char) (supply : Supply) :
    Except Failure (Reading Directive) := do
  let (cs, supply) ← readName cs supply
  let flags := cs.takeWhile fun c => "-+ #0".contains c
  let (width, cs, supply) ← readMeasure widthLimit "width too big" "ssize_t"
    (cs.drop flags.length) supply
  let (precision, cs, supply) ← readPrecision cs supply
  let cs := if cs.head?.any (fun c => "hlL".contains c) then cs.drop 1 else cs
  match cs with
  | [] => throw incomplete
  | conversion :: rest =>
    return ({
      leftAligned := flags.contains '-' || width.any (· < 0)
      signed := flags.contains '+'
      spaced := flags.contains ' '
      alternate := flags.contains '#'
      zeroFilled := flags.contains '0'
      width := width.map Int.natAbs
      precision
      conversion }, rest, supply)

/-! ### Writing an argument -/

/-- A value in ASCII characters only. -/
def asciiText (v : Value) : String :=
  String.join (v.showNested.toList.map fun c =>
    if c.toNat < 0x80 then c.toString else Text.escapedCode c.toNat)

/-- The whole number that a number with its places cut off is. -/
def truncate : Double → Except Failure Int
  | .nan _ => .error (valueFailure "cannot convert float NaN to integer")
  | .infinite _ => .error (overflow "cannot convert float infinity to integer")
  | .finite negative m e =>
    let (n, d) := Double.scaleQuotient m 1 (-e)
    .ok (if negative then -(n / d : Nat) else (n / d : Nat))

/-- The whole number that a value is taken as. Only the decimal conversions take other numbers. -/
def wholeOf (conversion : Char) : Value → Except Failure Int
  | .bool b => .ok (if b then 1 else 0)
  | .number (.int n) => .ok n
  | v =>
    let isDecimal := "diu".contains conversion
    let refusal (needed : String) : Except Failure Int :=
      .error (typeFailure s!"%{conversion} format: {needed} is required, not {v.kindName}")
    match v with
    | .number (.double d) => if isDecimal then truncate d else refusal "an integer"
    | _ => refusal (if isDecimal then "a real number" else "an integer")

/-- A whole number with its sign, its mark when an alternate form is asked for, and at least as many
digits as the precision says. -/
def wholeText (directive : Directive) (n : Int) : List Char :=
  let (base, mark) := match directive.conversion with
    | 'o' => (8, "0o")
    | 'x' => (16, "0x")
    | 'X' => (16, "0X")
    | _ => (10, "")
  let digits := Nat.toDigits base n.natAbs
  let digits := if directive.conversion == 'X' then digits.map Char.toUpper else digits
  (if n < 0 then ['-'] else []) ++ (if directive.alternate then mark.toList else [])
    ++ List.replicate (directive.precision.getD 0 - digits.length) '0' ++ digits

/-- The number that a value is taken as. -/
def doubleOf : Value → Except Failure Double
  | .bool b => .ok (.ofInt (if b then 1 else 0))
  | .number (.double d) => .ok d
  | .number (.int n) =>
    let d := Double.ofInt n
    if d.isFinite then .ok d else .error (overflow "int too large to convert to float")
  | v => .error (typeFailure s!"must be real number, not {v.kindName}")

def doubleText (directive : Directive) (d : Double) : List Char :=
  let places := directive.precision.getD 6
  let cs := match d with
    | .nan _ => "nan".toList
    | .infinite negative => (if negative then "-inf" else "inf").toList
    | .finite negative m e => (if negative then ['-'] else []) ++ match directive.conversion.toLower with
      | 'f' => Decimal.fixedText directive.alternate places m e
      | 'e' => Decimal.scientificText directive.alternate places m e
      | _ => Decimal.generalText directive.alternate places m e
  if directive.conversion.isUpper then cs.map Char.toUpper else cs

/-- The one code point that a value stands for. -/
def characterOf : Value → Except Failure (List Char)
  | .string s => if Text.length s = 1 then .ok s.toList
    else .error (typeFailure "%c requires int or char")
  | .bool b => .ok (Text.ofCode (if b then 1 else 0))
  | .number (.int n) =>
    if 0 ≤ n ∧ n < 0x110000 then .ok (Text.ofCode n.toNat)
    else .error (overflow "%c arg not in range(0x110000)")
  | _ => .error (typeFailure "%c requires int or char")

/-! ### Layout -/

def isTextual (conversion : Char) : Bool :=
  "sra".contains conversion

/-- The sign of a written number, one that the directive asks for included, and the rest. -/
def splitSign (directive : Directive) : List Char → List Char × List Char
  | '-' :: rest => (['-'], rest)
  | cs => (if directive.signed then ['+'] else if directive.spaced then [' '] else [], cs)

/-- Lays a written argument out in the width of the directive. Zeros for filling come after the sign
and the mark of a number. -/
def layOut (directive : Directive) (isNumber : Bool) (cs : List Char) : List Char :=
  let cs := match directive.precision with
    | some n =>
      if isTextual directive.conversion then Text.ofCodes ((Text.codes cs).take n) else cs
    | none => cs
  let (sign, cs) := if isNumber then splitSign directive cs else ([], cs)
  let mark := if directive.alternate && "oxX".contains directive.conversion then cs.take 2 else []
  let cs := cs.drop mark.length
  let missing := directive.width.getD 0 - (sign.length + mark.length + (Text.codes cs).length)
  if directive.leftAligned then sign ++ mark ++ cs ++ List.replicate missing ' '
  else if isNumber && directive.zeroFilled then sign ++ mark ++ List.replicate missing '0' ++ cs
  else List.replicate missing ' ' ++ sign ++ mark ++ cs

/-- The failure to understand a conversion, with its place in the text. -/
def unsupported (conversion : Char) (position : Nat) : Failure :=
  let code := conversion.toNat
  let shown := if 31 ≤ code ∧ code ≤ 126 then conversion else '?'
  valueFailure (s!"unsupported format character '{shown}' (0x{Text.hexCode 1 code}) "
    ++ s!"at index {position}")

/-- The text of a directive whose conversion stands at the given position. -/
def write (directive : Directive) (position : Nat) (supply : Supply) :
    Except Failure (List Char × Supply) := do
  let (v, supply) ← supply.take
  let laid (isNumber : Bool) (cs : List Char) := (layOut directive isNumber cs, supply)
  match directive.conversion with
  | 's' => return laid false v.literal.toList
  | 'r' => return laid false v.showNested.toList
  | 'a' => return laid false (asciiText v).toList
  | 'c' => return laid false (← characterOf v)
  | c =>
    if "diuoxX".contains c then return laid true (wholeText directive (← wholeOf c v))
    else if "eEfFgG".contains c then return laid true (doubleText directive (← doubleOf v))
    else throw (unsupported c position)

/-! ### The whole text -/

/-- Fills in the last part of a text of the given length. As no directive is empty, the length of the
part bounds the number of steps. -/
def fillFrom (length : Nat) : Nat → List Char → Supply → Except Failure (List Char)
  | 0, _, _ => .ok []
  | steps + 1, cs, supply => match cs with
    | [] => supply.checkEnd.map fun () => []
    | '%' :: '%' :: rest => (fillFrom length steps rest supply).map ('%' :: ·)
    | '%' :: rest => do
      let (directive, rest, supply) ← readDirective rest supply
      let (text, supply) ← write directive (length - rest.length - 1) supply
      supply.checkDirective
      return text ++ (← fillFrom length steps rest supply)
    | c :: rest => (fillFrom length steps rest supply).map (c :: ·)

/-- A text with its directives filled in. -/
def fill (text : String) (arguments : Arguments) : Except Failure String :=
  let cs := text.toList
  (fillFrom cs.length (cs.length + 1) cs (Supply.ofArguments arguments)).map String.ofList

end Runbook.Format
