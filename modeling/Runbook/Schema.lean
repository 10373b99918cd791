import Runbook.Decimal.Reading
import Runbook.Text.Code
import Runbook.Value

/-!
Checking values against a schema. A decoder reports every problem it meets, each with the path to
it, in the order of the fields; a value is accepted when there is none.
-/

namespace Runbook.Schema

inductive Problem where
  | missing
  | notText
  | notUnicode
  | tooShort
  | notList
  | notObject
  | notModel (model : String)
  | noFields
  | noTag
  | unknownTag (tag : String)
  | duplicateStep (id : String)
  | notNumber
  | unreadableNumber
  | notPositive
  | notBoolean
  | unreadableBoolean
  | notInteger
  | unreadableInteger
  | fractional
  | notFinite
  | hugeInteger
  | notTrigger
  | unexpected
  | brokenJson
deriving DecidableEq, Repr

def Problem.message : Problem → String
  | .missing => "Field required"
  | .notText => "Input should be a valid string"
  | .notUnicode =>
    "Input should be a valid string, unable to parse raw data as a unicode string"
  | .tooShort => "String should have at least 1 character"
  | .notList => "Input should be a valid list"
  | .notObject => "Input should be a valid dictionary"
  | .notModel model => s!"Input should be a valid dictionary or instance of {model}"
  | .noFields => "Input should be a valid dictionary or object to extract fields from"
  | .noTag => "Unable to extract tag using discriminator 'type'"
  | .unknownTag tag =>
    s!"Input tag '{tag}' found using 'type' does not match any of the expected tags: "
      ++ "'ai_processing', 'data_transformation', 'notification', 'api_call', 'condition'"
  | .duplicateStep id => s!"Value error, Duplicate step id: {id}"
  | .notNumber => "Input should be a valid number"
  | .unreadableNumber => "Input should be a valid number, unable to parse string as a number"
  | .notPositive => "Input should be greater than 0"
  | .notBoolean => "Input should be a valid boolean"
  | .unreadableBoolean => "Input should be a valid boolean, unable to interpret input"
  | .notInteger => "Input should be a valid integer"
  | .unreadableInteger => "Input should be a valid integer, unable to parse string as an integer"
  | .fractional => "Input should be a valid integer, got a number with a fractional part"
  | .notFinite => "Input should be a finite number"
  | .hugeInteger => "Unable to parse input string as an integer, exceeded maximum size"
  | .notTrigger => "Input should be 'manual', 'schedule', 'event' or 'webhook'"
  | .unexpected => "Extra inputs are not permitted"
  | .brokenJson => "JSON decode error"

/-- A problem and the names and positions that lead to it. -/
structure Issue where
  path : List String
  problem : Problem
deriving DecidableEq, Repr

def Issue.location (issue : Issue) : String :=
  ".".intercalate issue.path

/-- The location and the message, also for an empty location. -/
def Issue.located (issue : Issue) : String :=
  issue.location ++ ": " ++ issue.problem.message

/-- The message alone when the location is empty. -/
def Issue.text (issue : Issue) : String :=
  if issue.path.isEmpty then issue.problem.message else issue.located

/-- A decoded value, or everything that is wrong with it. -/
inductive Decoded (α : Type) where
  | valid (a : α)
  | invalid (issues : List Issue)
deriving Repr

abbrev Decoder (α : Type) := Value → Decoded α

namespace Decoded

variable {α β : Type}

def fail (problem : Problem) : Decoded α :=
  .invalid [⟨[], problem⟩]

def issues : Decoded α → List Issue
  | .valid _ => []
  | .invalid issues => issues

def map (f : α → β) : Decoded α → Decoded β
  | .valid a => .valid (f a)
  | .invalid issues => .invalid issues

/-- Applies a function to one more part; the problems of all parts are kept, in order. -/
def part : Decoded (α → β) → Decoded α → Decoded β
  | .valid f, .valid a => .valid (f a)
  | .valid _, .invalid issues => .invalid issues
  | .invalid issues, .valid _ => .invalid issues
  | .invalid first, .invalid second => .invalid (first ++ second)

/-- Continues with an accepted value. -/
def andThen (x : Decoded α) (f : α → Decoded β) : Decoded β :=
  match x with
  | .valid a => f a
  | .invalid issues => .invalid issues

/-- Puts the problems under a name. -/
def under (name : String) : Decoded α → Decoded α
  | .valid a => .valid a
  | .invalid issues => .invalid (issues.map fun issue => { issue with path := name :: issue.path })

end Decoded

/-- The first of several names that the fields have, with its value. -/
def findNamed (fields : Value.Fields) : List String → Option (String × Value)
  | [] => none
  | name :: others => match Entries.get? fields name with
    | some v => some (name, v)
    | none => findNamed fields others

section Fields

variable {α : Type}

/-- A field that must be there. The first of its names wins; the problems are put under the name that
was used. -/
def required (fields : Value.Fields) (names : List String) (decode : Decoder α) : Decoded α :=
  match findNamed fields names with
  | some (name, v) => (decode v).under name
  | none => .invalid [⟨names.take 1, .missing⟩]

def optional (fields : Value.Fields) (names : List String) (default : α) (decode : Decoder α) :
    Decoded α :=
  match findNamed fields names with
  | some (name, v) => (decode v).under name
  | none => .valid default

end Fields

/-! ### Scalars -/

def anything : Decoder Value := .valid

def text : Decoder String
  | .string s => .valid s
  | _ => .fail .notText

/-- Reads a text that has to have a form in UTF-8. -/
def reading {α : Type} (s : String) (read : Decoded α) : Decoded α :=
  if Text.isEncodable s then read else .fail .notUnicode

def nonEmptyText : Decoder String
  | .string s => reading s (if s.isEmpty then .fail .tooShort else .valid s)
  | _ => .fail .notText

/-- The text without its underscores, which must be single and inside. -/
def withoutUnderscores? (cs : List Char) : Option (List Char) :=
  if cs.head? == some '_' || cs.getLast? == some '_' || (cs.zip (cs.drop 1)).contains ('_', '_')
  then none
  else some (cs.filter (· != '_'))

def plainDigit? (c : Char) : Option Nat :=
  Text.asciiDigit? c

/-- The number that a text holds in ASCII digits. Blanks may stand around it, or single underscores
inside it, but not both. -/
def readNumber? (s : String) : Option Double :=
  let read? (cs : List Char) := if cs.contains '_' then none else Decimal.double? plainDigit? cs
  (read? (Text.trimPadding s.toList)).or ((withoutUnderscores? s.toList).bind read?)

def number : Decoder Double
  | .number (.double d) => .valid d
  | .number (.int n) => match Double.ofInt n with
    | .infinite _ => .fail .notNumber
    | d => .valid d
  | .bool b => .valid (.ofInt (if b then 1 else 0))
  | .string s => reading s (match readNumber? s with
    | some d => .valid d
    | none => .fail .unreadableNumber)
  | _ => .fail .notNumber

def positiveNumber : Decoder Double := fun v =>
  (number v).andThen fun d => match d with
    | .finite false m _ => if m = 0 then .fail .notPositive else .valid d
    | .infinite false => .valid d
    | _ => .fail .notPositive

def booleanWords : List (String × Bool) := [
  ("0", false), ("off", false), ("f", false), ("false", false), ("n", false), ("no", false),
  ("1", true), ("on", true), ("t", true), ("true", true), ("y", true), ("yes", true)]

def booleanOfInt (n : Int) : Decoded Bool :=
  if n = 0 then .valid false
  else if n = 1 then .valid true
  else .fail .unreadableBoolean

/-- A boolean, or a number or word for one; whole numbers beyond 64 bits are none. -/
def boolean : Decoder Bool
  | .bool b => .valid b
  | .string s => reading s (match booleanWords.lookup (s.map Char.toLower) with
    | some b => .valid b
    | none => .fail .unreadableBoolean)
  | .number (.int n) =>
    if -Number.wordLimit ≤ n ∧ n < Number.wordLimit then booleanOfInt n else .fail .notBoolean
  | .number (.double d) => match d.toInt? with
    | some n =>
      if -Number.wordLimit < n ∧ n < Number.wordLimit then booleanOfInt n else .fail .notBoolean
    | none => .fail .notBoolean
  | _ => .fail .notBoolean

/-- A text without the zeros, and the underscores among them, that stand before the first other digit
or before a point; the last of them is kept when there is no such digit. -/
def withoutLeadingZeros (cs : List Char) : List Char :=
  let zeros := cs.takeWhile fun c => c == '0' || c == '_'
  let rest := cs.drop zeros.length
  if cs.head? == some '0' && (rest.isEmpty || rest.head? == some '.')
    then cs.drop (zeros.length - 1)
  else if cs.head? == some '0' then rest
  else cs

/-- A whole number as it is written, without what does not change it: padding, a plus, zeros before it,
a point with zeros after it, and single underscores between its digits. -/
def plainInteger? (s : String) : Option (List Char) :=
  let cs := Text.trimPadding s.toList
  let unsigned := if cs.head? == some '+' then cs.drop 1 else cs
  let bare := withoutLeadingZeros unsigned
  let whole := bare.takeWhile (· != '.')
  let places := bare.drop (whole.length + 1)
  if cs.head? == some '+' && unsigned.head? == some '-' then none
  else if bare.head?.any Char.isDigit || unsigned.head? == some '-' then
    withoutUnderscores? (if !places.isEmpty && places.all (· == '0') then whole else bare)
  else none

/-- The greatest number of characters that a whole number may take. -/
def lengthLimit : Nat := 4300

/-- The whole number that a text holds in ASCII digits. -/
def readInteger (s : String) : Decoded Int :=
  match plainInteger? s with
  | none => .fail .unreadableInteger
  | some cs =>
    if lengthLimit < (String.ofList cs).utf8ByteSize then .fail .hugeInteger
    else
      let (negative, digits) := Decimal.signOf cs
      if digits.isEmpty || !digits.all Char.isDigit then .fail .unreadableInteger
      else
        let n : Int := Decimal.digitsValue (digits.filterMap plainDigit?)
        .valid (if negative then -n else n)

def integer : Decoder Int
  | .number (.int n) => .valid n
  | .bool b => .valid (if b then 1 else 0)
  | .number (.double d) =>
    if !d.isFinite then .fail .notFinite
    else match d.toInt? with
      | none => .fail .fractional
      | some n =>
        if -Number.wordLimit < n ∧ n < Number.wordLimit then .valid n else .fail .hugeInteger
  | .string s => reading s (readInteger s)
  | _ => .fail .notInteger

/-! ### Containers -/

section Containers

variable {α : Type}

def nullable (decode : Decoder α) : Decoder (Option α)
  | .null => .valid none
  | v => (decode v).map some

def itemsFrom (decode : Decoder α) (position : Nat) : List Value → Decoded (List α)
  | [] => .valid []
  | v :: rest =>
    (((decode v).under (toString position)).map List.cons).part (itemsFrom decode (position + 1) rest)

def list (decode : Decoder α) : Decoder (List α)
  | .list items => itemsFrom decode 0 items
  | _ => .fail .notList

def entriesOf (decode : Decoder α) : Value.Fields → Decoded (Entries α)
  | [] => .valid []
  | (name, v) :: rest =>
    (((decode v).under name).map fun a others => (name, a) :: others).part (entriesOf decode rest)

def entries (decode : Decoder α) : Decoder (Entries α)
  | .object fields => entriesOf decode fields
  | _ => .fail .notObject

/-- An object of named fields. -/
def model (name : String) (decode : Value.Fields → Decoded α) : Decoder α
  | .object fields => decode fields
  | _ => .fail (.notModel name)

end Containers

end Runbook.Schema
