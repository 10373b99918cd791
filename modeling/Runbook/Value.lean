import Runbook.Entries
import Runbook.Number

/-!
The values that definitions, payloads and results are made of.
-/

namespace Runbook

/-- A tree of structured data. The names of an object are in order of insertion. -/
inductive Value where
  | null
  | bool (b : Bool)
  | number (n : Number)
  | string (s : String)
  | list (items : List Value)
  | object (fields : List (String × Value))
deriving Repr, Inhabited, BEq

namespace Value

abbrev Fields := Entries Value

def int (n : Int) : Value :=
  .number (.int n)

def nat (n : Nat) : Value :=
  .number (.int n)

def double (d : Double) : Value :=
  .number (.double d)

def ofOption {α : Type} (f : α → Value) : Option α → Value
  | none => .null
  | some a => f a

def optionalText (text : Option String) : Value :=
  .ofOption .string text

def strings (texts : List String) : Value :=
  .list (texts.map .string)

/-- A value counts as nothing when it is null, false, zero or empty. -/
def isNothing : Value → Bool
  | .null => true
  | .bool b => !b
  | .number n => n.isZero
  | .string s => s.isEmpty
  | .list items => items.isEmpty
  | .object fields => fields.isEmpty

/-- The field of an object, `none` for other values. -/
def field? : Value → String → Option Value
  | .object fields, key => Entries.get? fields key
  | _, _ => none

end Value

end Runbook
