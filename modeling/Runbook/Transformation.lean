import Runbook.Data
import Runbook.Definition

/-!
Transformations of a list held in runtime data: filtering, mapping and grouping.
-/

namespace Runbook

inductive TransformationKind where
  | filter
  | map
  | aggregate
deriving DecidableEq, Repr

def TransformationKind.ofName? : String → Option TransformationKind
  | "filter" => some .filter
  | "map" => some .map
  | "aggregate" => some .aggregate
  | _ => none

inductive TransformationError where
  | sourceMissing (source : String)
  | notList
  | groupByMissing
deriving DecidableEq, Repr

def TransformationError.message : TransformationError → String
  | .sourceMissing source => s!"Transformation source field not found: {source}"
  | .notList => "Transformation input must be a list"
  | .groupByMissing => "Aggregate transformation requires groupBy"

def TransformationError.toFailure (error : TransformationError) : Failure :=
  .stepFailed error.message

/-- Keeps the items in which every field holds the given value. -/
def filterItems (conditions : List FieldMatch) (items : List Value) : List Value :=
  items.filter fun item =>
    conditions.all fun m => Value.fieldsEq (item.field? m.field) (some m.value)

/-- One row: each mapping whose source is there sets its target. -/
def mapItem (mappings : List FieldMapping) (item : Value) : Value.Fields :=
  mappings.foldl (fun row mapping => match item.field? mapping.source with
    | some v => Entries.put row mapping.target v
    | none => row) []

def mapItems (mappings : List FieldMapping) (items : List Value) : List Value :=
  items.map fun item => .object (mapItem mappings item)

/-- The name of the group of a value: a text as it is, another value as compact JSON, and null for a
missing one. -/
def groupKey : Option Value → String
  | some (.string s) => s
  | some v => Json.write Json.compact v
  | none => Json.write Json.compact .null

/-- A missing value is grouped as null. -/
theorem groupKey_eq_groupKey_getD (v : Option Value) :
    groupKey v = groupKey (some (v.getD .null)) := by
  cases v <;> rfl

/-- Adds an item at the end of the group with the given name. -/
def addToGroup (groups : Entries (List Value)) (key : String) (item : Value) :
    Entries (List Value) :=
  Entries.put groups key ((Entries.get? groups key).getD [] ++ [item])

/-- The items grouped by a field, groups in the order of their first items. -/
def groupItems (field : String) (items : List Value) : Entries (List Value) :=
  items.foldl (fun groups item => addToGroup groups (groupKey (item.field? field)) item) []

namespace TransformationConfig

/-- The source, when it is given and not empty. -/
def givenSource? (config : TransformationConfig) : Option String :=
  config.source.filter fun source => !source.isEmpty

/-- The field that the output replaces. -/
def target (config : TransformationConfig) : String :=
  config.givenSource?.getD Data.defaultField

/-- What the transformation works on: the source, else the default field, else all runtime data. -/
def input (config : TransformationConfig) (data : Data) : Except TransformationError Datum :=
  match config.givenSource? with
  | some source => match Entries.get? data source with
    | some d => .ok d
    | none => .error (.sourceMissing source)
  | none => .ok ((Entries.get? data Data.defaultField).getD .whole)

def kind? (config : TransformationConfig) : Option TransformationKind :=
  TransformationKind.ofName? config.transformation

def items (d : Datum) : Except TransformationError (List Value) :=
  match d with
  | .value (.list items) => .ok items
  | _ => .error .notList

/-- The output for an input; an unknown transformation passes its input on. -/
def apply (config : TransformationConfig) (d : Datum) : Except TransformationError Datum :=
  match config.kind? with
  | some .filter => (items d).map fun items => .value (.list (filterItems config.conditions items))
  | some .map => (items d).map fun items => .value (.list (mapItems config.mappings items))
  | some .aggregate =>
    match config.groupBy.filter fun field => !field.isEmpty with
    | some field => (items d).map fun items =>
      .value (.object (Entries.mapValues .list (groupItems field items)))
    | none => .error .groupByMissing
  | none => .ok d

def run (config : TransformationConfig) (data : Data) : Except TransformationError Datum :=
  (config.input data).bind config.apply

end TransformationConfig

end Runbook
