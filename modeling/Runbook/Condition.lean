import Runbook.Data
import Runbook.Definition

/-!
Conditions: comparisons of runtime fields with given values, combined by "and" or "or".
-/

namespace Runbook

inductive Comparison where
  | equals
  | notEquals
  | contains
  | greaterThan
  | lessThan
deriving DecidableEq, Repr

namespace Comparison

def ofName? : String → Option Comparison
  | "equals" => some .equals
  | "not_equals" => some .notEquals
  | "contains" => some .contains
  | "greater_than" => some .greaterThan
  | "less_than" => some .lessThan
  | _ => none

/-- Compares a field with a value. Only `contains` can fail: a field that contains itself has no
text. -/
def holds (comparison : Comparison) (data : Data) (field : Option Datum) (value : Value) :
    Except Failure Bool :=
  match comparison with
  | .equals => .ok (data.fieldEq field value)
  | .notEquals => .ok (!data.fieldEq field value)
  | .contains => match field with
    | none => .ok false
    | some d => (data.stringify d).map fun text => Text.occursIn value.stringify.toList text.toList
  | .greaterThan => .ok (Data.fieldOrder? field value == some .gt)
  | .lessThan => .ok (Data.fieldOrder? field value == some .lt)

end Comparison

/-- The outcome of one clause; a clause with an unknown operator is false. -/
def Clause.holds (clause : Clause) (data : Data) : Except Failure Bool :=
  match Comparison.ofName? clause.operator with
  | some comparison => comparison.holds data (Entries.get? data clause.field) clause.value
  | none => .ok false

/-- The outcomes of all clauses, or the first failure. -/
def Clause.holdAll (data : Data) : List Clause → Except Failure (List Bool)
  | [] => .ok []
  | clause :: rest => do
    let outcome ← clause.holds data
    let outcomes ← holdAll data rest
    return outcome :: outcomes

/-- What a condition step reports. -/
structure Verdict where
  outcome : Bool
  clauses : List Bool
deriving DecidableEq, Repr

def Verdict.toValue (verdict : Verdict) : Value :=
  .object [("conditionResult", .bool verdict.outcome),
    ("perConditionResults", .list (verdict.clauses.map .bool))]

/-- All clauses under the operator `AND`, any of them under every other. -/
def ConditionConfig.evaluate (config : ConditionConfig) (data : Data) : Except Failure Verdict :=
  (Clause.holdAll data config.conditions).map fun outcomes =>
    { outcome := if config.operator == "AND" then outcomes.all id else outcomes.any id
      clauses := outcomes }

end Runbook
