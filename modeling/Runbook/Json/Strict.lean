import Runbook.Data

/-!
What strict JSON can hold: finite values whose numbers are all finite.
-/

namespace Runbook

mutual

/-- Whether every number has a form in strict JSON. -/
def Value.isFinite : Value → Bool
  | .number (.double d) => d.isFinite
  | .list items => Value.allFinite items
  | .object fields => Value.allFieldsFinite fields
  | _ => true

def Value.allFinite : List Value → Bool
  | [] => true
  | v :: rest => v.isFinite && Value.allFinite rest

def Value.allFieldsFinite : List (String × Value) → Bool
  | [] => true
  | (_, v) :: rest => v.isFinite && Value.allFieldsFinite rest

end

namespace Data

/-- The data as fields that strict JSON can hold, or the first thing that stands in the way. -/
def strictFields : Data → Except Failure Value.Fields
  | [] => .ok []
  | (_, .whole) :: _ => .error .circular
  | (k, .value v) :: rest =>
    if v.isFinite then (strictFields rest).map ((k, v) :: ·) else .error .outOfRange

/-- A datum as strict JSON can hold it. -/
def strict (data : Data) : Datum → Except Failure Value
  | .value v => if v.isFinite then .ok v else .error .outOfRange
  | .whole => (strictFields data).map .object

end Data

end Runbook
