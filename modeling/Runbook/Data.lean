import Runbook.Failure
import Runbook.Json.Writer
import Runbook.Value.Equality
import Runbook.Value.Order

/-!
Runtime data: the fields that the steps of a run read and write. A field may hold the runtime data
themselves, which then contain themselves and have no text.
-/

namespace Runbook

/-- What a field holds: a value, or the runtime data as a whole, by reference. -/
inductive Datum where
  | value (v : Value)
  | whole
deriving Repr, Inhabited, BEq

abbrev Data := Entries Datum

namespace Data

/-- The field with the user who asked for the run. -/
def userField : String := "userId"

/-- The field for payloads that are no objects, which transformations read by default. -/
def defaultField : String := "data"

def ofFields (fields : Value.Fields) : Data :=
  Entries.mapValues .value fields

/-- The data as one value, unless they contain themselves. -/
def toFields? : Data → Option Value.Fields
  | [] => some []
  | (_, .whole) :: _ => none
  | (k, .value v) :: rest => (toFields? rest).map ((k, v) :: ·)

def isCircular (data : Data) : Bool :=
  data.any fun entry => match entry.2 with
    | .whole => true
    | .value _ => false

/-- A datum as a value of its own, unless it contains itself. -/
def resolve (data : Data) : Datum → Except Failure Value
  | .value v => .ok v
  | .whole => match toFields? data with
    | some fields => .ok (.object fields)
    | none => .error .circular

def stringify (data : Data) (d : Datum) : Except Failure String :=
  (data.resolve d).map Value.stringify

mutual

/-- Whether the data as a whole equal a value. The value is finite, so data that contain themselves
are unequal to it in the end. -/
def wholeEq (data : Data) : Value → Bool
  | .object fields => data.length == fields.length && wholeEqFields data fields
  | _ => false

def wholeEqFields (data : Data) : List (String × Value) → Bool
  | [] => true
  | (k, w) :: rest =>
    (match Entries.get? data k with
      | some (.value v) => Value.nestedEq v w
      | some .whole => wholeEq data w
      | none => false) && wholeEqFields data rest

end

/-- A field equals a value of the same kind. -/
def fieldEq (data : Data) : Option Datum → Value → Bool
  | some (.value v), w => Value.strictEq v w
  | some .whole, w => wholeEq data w
  | none, _ => false

/-- The order of a field and a value. -/
def fieldOrder? : Option Datum → Value → Option Ordering
  | some (.value v), w => Value.order? v w
  | _, _ => none

end Data

end Runbook
