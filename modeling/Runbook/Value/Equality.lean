import Runbook.Value

/-!
Equality of values. Inside lists and objects the booleans count as 0 and 1 and the order of an
object's names does not matter; at the top, values of different kinds are never equal.
-/

namespace Runbook.Value

/-- The number that a number or a boolean counts as inside a container. -/
def count? : Value → Option Number
  | .bool b => some (.int (if b then 1 else 0))
  | .number n => some n
  | _ => none

mutual

/-- Equality inside containers, where what is the same is equal without being compared. -/
def nestedEq : Value → Value → Bool
  | .null, .null => true
  | .string s, .string t => s == t
  | .list xs, .list ys => nestedEqItems xs ys
  | .object fs, .object gs => fs.length == gs.length && nestedEqFields fs gs
  | .bool a, w => match w.count? with
    | some n => Number.same (.int (if a then 1 else 0)) n
    | none => false
  | .number a, w => match w.count? with
    | some n => a.same n
    | none => false
  | _, _ => false

def nestedEqItems : List Value → List Value → Bool
  | [], [] => true
  | v :: vs, w :: ws => nestedEq v w && nestedEqItems vs ws
  | _, _ => false

/-- Every field on the left has an equal on the right. -/
def nestedEqFields : List (String × Value) → List (String × Value) → Bool
  | [], _ => true
  | (k, v) :: rest, gs =>
    (match Entries.get? gs k with
      | some w => nestedEq v w
      | none => false) && nestedEqFields rest gs

end

/-- Equality without mixing kinds: `1` and `1.0` are equal, `1` and `true` are not. At the top, a number
that is not one equals nothing. -/
def strictEq : Value → Value → Bool
  | .null, .null => true
  | .bool a, .bool b => a == b
  | .number a, .number b => a.eq b
  | .string s, .string t => s == t
  | .list xs, .list ys => nestedEq (.list xs) (.list ys)
  | .object fs, .object gs => nestedEq (.object fs) (.object gs)
  | _, _ => false

/-- Equality of two fields, either of which may be missing; a missing one equals nothing. -/
def fieldsEq : Option Value → Option Value → Bool
  | some v, some w => strictEq v w
  | _, _ => false

end Runbook.Value
