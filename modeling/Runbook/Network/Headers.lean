import Runbook.Entries
import Runbook.Failure

/-!
Headers of requests and responses. Their names are in small letters.
-/

namespace Runbook.Headers

/-- The header with its name in small letters; values of one name are joined. -/
def add (headers : Entries String) (name value : String) : Entries String :=
  let name := name.toLower
  match Entries.get? headers name with
  | some before => Entries.put headers name (before ++ ", " ++ value)
  | none => Entries.put headers name value

def ofEntries (entries : List (String × String)) : Entries String :=
  entries.foldl (fun headers entry => add headers entry.1 entry.2) []

def remove (headers : Entries String) (names : List String) : Entries String :=
  headers.filter fun entry => !names.contains entry.1

def isAscii (c : Char) : Bool :=
  c.toNat < 128

/-- Headers can be sent when they are plain ASCII. -/
def check (entries : List (String × String)) : Except Failure Unit :=
  match entries.findSome? fun entry =>
      (Failure.notAscii? entry.1).or (Failure.notAscii? entry.2) with
  | some failure => .error failure
  | none => .ok ()

end Runbook.Headers
