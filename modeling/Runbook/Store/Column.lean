import Runbook.Decimal.Reading
import Runbook.Decimal.Shortest
import Runbook.Failure
import Runbook.Text.Digit
import Runbook.Value

/-!
What the columns of a table make of the values that are put into them.
-/

namespace Runbook.Store

inductive ColumnFault where
  | required (column : String)
  | unsupported (column : String)
  | notBoolean (column : String)
  | tooLarge
  | duplicate (column : String)
  | notEncodable
  /-- A text without a form in UTF-8, and what is said about it. -/
  | notUtf8 (complaint : String)
deriving DecidableEq, Repr

namespace ColumnFault

def message : ColumnFault → String
  | .required column => s!"column {column} requires a value"
  | .unsupported column => s!"column {column} cannot hold the value"
  | .notBoolean column => s!"column {column} holds booleans only"
  | .tooLarge => "Python int too large to convert to SQLite INTEGER"
  | .duplicate column => s!"column {column} holds the value already"
  | .notEncodable => Failure.circular.message
  | .notUtf8 complaint => complaint

/-- The failure that a fault is where nobody takes it for a failure to record. -/
def toFailure : ColumnFault → Failure
  | .required column => .other "IntegrityError" (ColumnFault.required column).message
  | .unsupported column => .other "InterfaceError" (ColumnFault.unsupported column).message
  | .notBoolean column => .other "StatementError" (ColumnFault.notBoolean column).message
  | .tooLarge => .other "OverflowError" ColumnFault.tooLarge.message
  | .duplicate column => .other "IntegrityError" (ColumnFault.duplicate column).message
  | .notEncodable => .other "StatementError" ColumnFault.notEncodable.message
  | .notUtf8 complaint => .other "UnicodeEncodeError" complaint

/-- When a fault is found: before the values are handed over, when a column takes a value, or when
the row is complete. -/
def stage : ColumnFault → Nat
  | .notBoolean _ => 0
  | .notEncodable => 0
  | .unsupported _ => 1
  | .tooLarge => 1
  | .notUtf8 _ => 1
  | .required _ => 2
  | .duplicate _ => 2

/-- The fault that is found first, of faults in the order of their columns. -/
def first? (faults : List ColumnFault) : Option ColumnFault :=
  [0, 1, 2].findSome? fun stage => faults.find? fun fault => fault.stage == stage

end ColumnFault

/-- The fault of a column, if it has one. -/
def faultOf {α : Type} : Except ColumnFault α → List ColumnFault
  | .ok _ => []
  | .error fault => [fault]

/-- Fails with the fault that is found first. -/
def checkAll (faults : List (List ColumnFault)) : Except ColumnFault Unit :=
  match ColumnFault.first? faults.flatten with
  | some fault => .error fault
  | none => .ok ()

/-- Whole numbers of 64 bits. -/
def fitsColumn (n : Int) : Bool :=
  -Number.wordLimit ≤ n && n < Number.wordLimit

/-- Numbers as columns of texts keep them: 15 digits with a point below `10 ^ 15`, and always a digit
after the point. -/
def numberLayout : Decimal.Layout := ⟨-4, 15, ".0", ".0", "NaN", "Inf"⟩

/-- The quotient rounded to the nearest whole number; a half goes up. -/
def roundHalfUp (num den : Nat) : Nat :=
  (2 * num + den) / (2 * den)

/-- The text of a number; zero has no sign. -/
def numberText (d : Double) : String :=
  numberLayout.render (Decimal.roundedBy roundHalfUp 15) (if d.isZero then .zero else d)

/-- A text, which is kept in UTF-8. -/
def encoded (s : String) : Except ColumnFault String :=
  match Text.utf8Complaint? s with
  | some complaint => .error (.notUtf8 complaint)
  | none => .ok s

/-- A text, or the text of a number; null has none, and neither has what is not a number. -/
def optionalText (column : String) : Value → Except ColumnFault (Option String)
  | .null => .ok none
  | .string s => (encoded s).map some
  | .bool b => .ok (some (if b then "1" else "0"))
  | .number (.int n) => if fitsColumn n then .ok (some (toString n)) else .error .tooLarge
  | .number (.double (.nan _)) => .ok none
  | .number (.double d) => .ok (some (numberText d))
  | _ => .error (.unsupported column)

/-- A text; the default, if there is one, stands in for null. -/
def text (column : String) (default : Option String) (v : Value) : Except ColumnFault String :=
  match v, default with
  | .null, some s => .ok s
  | v, _ => match optionalText column v with
    | .ok (some s) => .ok s
    | .ok none => .error (.required column)
    | .error fault => .error fault

/-- A number as a column of whole numbers keeps it. The least whole number stays as it is. -/
def wholeIfPossible (d : Double) : Value :=
  match d.toInt? with
  | some n => if -Number.wordLimit < n ∧ n < Number.wordLimit then .int n else .double d
  | none => .double d

def isSpace (c : Char) : Bool :=
  c == ' ' || (0x09 ≤ c.toNat && c.toNat ≤ 0x0D)

/-- The number that a text says in digits, with spaces around it; a whole number of 64 bits is exact. -/
def saidNumber? (s : String) : Option Value :=
  let cs := ((s.toList.dropWhile isSpace).reverse.dropWhile isSpace).reverse
  let (negative, digits) := Decimal.signOf cs
  let n : Int := Decimal.digitsValue (digits.filterMap Text.asciiDigit?)
  let n := if negative then -n else n
  if !digits.isEmpty && digits.all Char.isDigit && fitsColumn n then some (.int n)
  else if digits.contains '_' then none
  else (Decimal.decimalOf? Text.asciiDigit? negative digits).map wholeIfPossible

/-- A whole number where the value is or says one; null stands for zero. -/
def integer (column : String) : Value → Except ColumnFault Value
  | .null => .ok (.int 0)
  | .bool b => .ok (.int (if b then 1 else 0))
  | .number (.int n) => if fitsColumn n then .ok (.int n) else .error .tooLarge
  | .number (.double (.nan _)) => .error (.required column)
  | .number (.double d) => .ok (wholeIfPossible d)
  | .string s => (encoded s).map fun s => (saidNumber? s).getD (.string s)
  | _ => .error (.unsupported column)

/-- A boolean, or the number for one. -/
def boolean (column : String) (default : Option Bool) : Value → Except ColumnFault Bool
  | .null => match default with
    | some b => .ok b
    | none => .error (.required column)
  | .bool b => .ok b
  | .number n =>
    if n.eq (.int 0) then .ok false
    else if n.eq (.int 1) then .ok true
    else .error (.notBoolean column)
  | _ => .error (.notBoolean column)

end Runbook.Store
