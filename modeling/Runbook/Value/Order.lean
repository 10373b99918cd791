import Runbook.Decimal.Reading
import Runbook.Text.Code
import Runbook.Value

/-!
The order of values: numbers by size, texts by code points, and a text that holds a number beside a
number. Other pairs have no order.
-/

namespace Runbook.Value

/-- The number that a number or a numeric text stands for. -/
def asNumber? : Value → Option Number
  | .number n => some n
  | .string s => (Decimal.ofText? s).map .double
  | _ => none

/-- Numbers by size; one that is not a number counts as equal to all. -/
def compareNumbers (a b : Number) : Ordering :=
  (a.order? b).getD .eq

/-- Texts by their code points. -/
def compareTexts (s t : String) : Ordering :=
  compare (Text.codes s.toList) (Text.codes t.toList)

def order? : Value → Value → Option Ordering
  | .string s, .string t => some (compareTexts s t)
  | .number a, w => w.asNumber?.map (compareNumbers a)
  | v, .number b => v.asNumber?.map (compareNumbers · b)
  | _, _ => none

/-- The order of two fields, either of which may be missing. -/
def fieldsOrder? : Option Value → Option Value → Option Ordering
  | some v, some w => order? v w
  | _, _ => none

end Runbook.Value
