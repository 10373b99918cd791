import Runbook.Text.Lines
import Runbook.Value.Literal

/-!
Log entries as people read them: time, level, event and logger come first, then the other fields by
name, and last the stack and the failure, each on lines of its own.
-/

namespace Runbook.Console

/-- The fields that have a place of their own, in the order of their places. -/
def columns : List String := ["timestamp", "level", "event", "logger", "logger_name"]

/-- The fields that stand on lines of their own. -/
def blocks : List String := ["stack", "exception"]

def filledTo (width : Nat) (s : String) : String :=
  s ++ String.ofList (List.replicate (width - s.length) ' ')

def columnText (name : String) (v : Value) : String :=
  match name with
  | "level" => "[" ++ filledTo 9 v.literal ++ "]"
  | "event" => filledTo 30 v.literal
  | "timestamp" => v.literal
  | _ => "[" ++ v.literal ++ "]"

/-- A text is quoted only where it could be misread. -/
def valueText : Value → String
  | .string s => if s.toList.any fun c => " \t=\r\n\"'".contains c then Value.showText s else s
  | v => v.showNested

/-- The first line of an entry, which goes on where a text in it has line breaks of its own. -/
def heading (fields : Value.Fields) : String :=
  let placed := columns.filterMap fun name => (Entries.get? fields name).map (columnText name)
  let others := (fields.filter fun entry => !(columns ++ blocks).contains entry.1).mergeSort
    fun a b => !(b.1 < a.1)
  let parts := placed ++ others.map fun entry => entry.1 ++ "=" ++ valueText entry.2
  let text := " ".intercalate (parts.filter fun part => !part.isEmpty)
  String.ofList (text.toList.reverse.dropWhile (· == ' ')).reverse

/-- A block, empty for null; only a text can be one. -/
def block? (fields : Value.Fields) (name : String) : Option String :=
  match Entries.get? fields name with
  | none => some ""
  | some .null => some ""
  | some (.string s) => some ("\n" ++ s)
  | some _ => none

/-- The text of an entry with the line break after it, if it can be written. -/
def text? (fields : Value.Fields) : Option String :=
  match block? fields "stack", block? fields "exception" with
  | some stack, some failure =>
    let rule := "\n\n" ++ String.ofList (List.replicate 79 '=') ++ "\n"
    some (heading fields ++ stack
      ++ (if stack.isEmpty || failure.isEmpty then "" else rule) ++ failure ++ "\n")
  | _, _ => none

/-- How many lines entries take; those that cannot be written take none. -/
def lineCount (entries : List Value.Fields) : Nat :=
  (entries.filterMap text?).foldl (fun count text => count + (Text.lines text.toList).length) 0

end Runbook.Console
