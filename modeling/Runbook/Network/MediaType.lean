import Runbook.Text.Blank
import Runbook.Network.Address

/-!
Media types, as the header for the type of a content names them: a type with a subtype, then
parameters between semicolons.
-/

namespace Runbook.MediaType

/-- The parts of a header between semicolons that do not stand in quotes; `part` holds the part under
way in reverse, and `quoted` says whether its quotes are open. -/
def parts (part : List Char) (quoted : Bool) : List Char → List (List Char)
  | [] => [part.reverse]
  | c :: rest =>
    if c == ';' && !quoted then part.reverse :: parts [] false rest
    else parts (c :: part) (quoted != (c == '"' && part.head? != some '\\')) rest

/-- The text in a pair of quotes or of angle brackets, or any other text as it is. -/
def unquoted (cs : List Char) : List Char :=
  if cs.length < 2 then cs
  else
    let inner := (cs.drop 1).dropLast
    if cs.head? == some '"' && cs.getLast? == some '"' then
      (((String.ofList inner).replace "\\\\" "\\").replace "\\\"" "\"").toList
    else if cs.head? == some '<' && cs.getLast? == some '>' then inner
    else cs

/-- The value of a parameter, empty when only its name is there. -/
def parameter? (name : String) (header : String) : Option String :=
  (parts [] false header.toList).findSome? fun part =>
    let (key, value) := (Address.splitAt? '=' part).getD (part, [])
    if (String.ofList (Text.trimBlank key)).toLower == name
    then some (String.ofList (unquoted (Text.trimBlank value))) else none

/-- Type and subtype in small letters; what is no such pair counts as plain text. -/
def essence (header : String) : String :=
  let essence := (String.ofList (Text.trimBlank (header.toList.takeWhile (· != ';')))).toLower
  if essence.toList.count '/' == 1 then essence else "text/plain"

/-- Whether content of the type is JSON. -/
def isJson (header : String) : Bool :=
  let essence := essence header
  essence == "application/json"
    || (essence.startsWith "application/" && essence.endsWith "+json")

end Runbook.MediaType
