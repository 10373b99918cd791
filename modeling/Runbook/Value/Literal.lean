import Runbook.Decimal.Shortest
import Runbook.Text.Code
import Runbook.Text.Printable
import Runbook.Value

/-!
Values as they are shown in messages: texts inside lists and objects are quoted, and null and the
booleans are capitalised words.
-/

namespace Runbook.Value

def showCode (mark : Char) (code : Nat) : String :=
  let c := Char.ofNat code
  if c == mark || c == '\\' then "\\" ++ c.toString
  else if c == '\n' then "\\n"
  else if c == '\r' then "\\r"
  else if c == '\t' then "\\t"
  else if !Text.isSurrogate code && Text.isPrintable c then c.toString
  else Text.escapedCode code

/-- A text in single quotes, or in double quotes when it holds single ones only. -/
def showText (s : String) : String :=
  let mark := if s.contains '\'' && !s.contains '"' then '"' else '\''
  mark.toString ++ String.join ((Text.codes s.toList).map (showCode mark)) ++ mark.toString

mutual

def showNested : Value → String
  | .null => "None"
  | .bool b => if b then "True" else "False"
  | .number (.int n) => toString n
  | .number (.double d) => d.plainText
  | .string s => showText s
  | .list [] => "[]"
  | .list (v :: vs) => "[" ++ showNested v ++ showItems vs ++ "]"
  | .object [] => "\x7b\x7d"
  | .object ((k, v) :: fs) =>
    "\x7b" ++ showText k ++ ": " ++ showNested v ++ showFields fs ++ "\x7d"

def showItems : List Value → String
  | [] => ""
  | v :: vs => ", " ++ showNested v ++ showItems vs

def showFields : List (String × Value) → String
  | [] => ""
  | (k, v) :: fs => ", " ++ showText k ++ ": " ++ showNested v ++ showFields fs

end

/-- A text alone is shown without quotes. -/
def literal : Value → String
  | .string s => s
  | v => showNested v

/-- The name of a value's kind in messages. -/
def kindName : Value → String
  | .null => "NoneType"
  | .bool _ => "bool"
  | .number (.int _) => "int"
  | .number (.double _) => "float"
  | .string _ => "str"
  | .list _ => "list"
  | .object _ => "dict"

end Runbook.Value
