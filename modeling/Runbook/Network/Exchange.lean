import Runbook.Interaction
import Runbook.Json.Reader
import Runbook.Network.Address
import Runbook.Network.Coding
import Runbook.Network.Headers
import Runbook.Network.MediaType
import Runbook.Network.StatusCode

/-!
Exchanges over the network: one request and the response to it, and mail sessions.
-/

namespace Runbook

structure WireRequest where
  method : String
  address : Address
  headers : Entries String
  body : String
  timeout : Option Number
deriving Repr

structure WireResponse where
  status : Int
  /-- The headers; a name may come more than once. -/
  headers : List (String × String)
  body : List UInt8
deriving Repr

/-- One command of a mail session. -/
inductive MailCommand where
  | connect (host port : Value)
  | startTls
  | login (user password : Value)
  | send (sender : Value) (recipients : List String) (message : String)
  | quit
deriving Repr

/-- A network, as a world in state `σ`. -/
structure Network (σ : Type) where
  exchange : Service σ WireRequest WireResponse
  mail : Service σ MailCommand Unit
  clock : σ → Instant
  log : Level → String → σ → σ

namespace Dialogue

variable {σ α : Type}

/-- Takes a failure as an answer. -/
def attempt (x : Dialogue σ α) : Dialogue σ (Except Failure α) := fun world =>
  match x world with
  | (.answered a, world) => (.answered (.ok a), world)
  | (.raised failure, world) => (.answered (.error failure), world)
  | (.hung, world) => (.hung, world)

/-- A dialogue that only changes the world. -/
def change (f : σ → σ) : Dialogue σ Unit := fun world => (.answered (), f world)

/-- A look at the world. -/
def look (f : σ → α) : Dialogue σ α := fun world => (.answered (f world), world)

end Dialogue

namespace WireResponse

/-! ### Headers -/

/-- All values of a header. -/
def values (response : WireResponse) (name : String) : List String :=
  (response.headers.filter fun header => header.1 == name).map (·.2)

def header? (response : WireResponse) (name : String) : Option String :=
  Entries.get? (Headers.ofEntries response.headers) name

/-- Where a redirect leads, if the response is one. -/
def location? (response : WireResponse) : Option String :=
  if StatusCode.isRedirect response.status then response.header? "location" else none

/-! ### Bodies -/

/-- The response with its body as it was before it was packed for the way. -/
def unpacked (response : WireResponse) : Except Failure WireResponse :=
  let codings := (response.values "content-encoding").flatMap Coding.ofHeader
  match Coding.unpackAll codings response.body with
  | .ok body => .ok { response with body }
  | .error message => .error (.transport .decoding message)

/-- The character set that the response names, or the usual one. -/
def charset (response : WireResponse) : Text.Charset :=
  (((response.header? "content-type").bind (MediaType.parameter? "charset")).bind
    Text.Charset.ofName?).getD .utf8

/-- The body as text. -/
def text (response : WireResponse) : Except Failure String :=
  if response.charset.lacksMark response.body then
    .error (.other "UnicodeError" (match response.charset with
      | .markedUnits 2 => "UTF-16 stream does not start with BOM"
      | _ => "UTF-32 stream does not start with BOM"))
  else .ok (Text.mended (response.charset.decode false response.body))

/-- The failure to read JSON text that is nested too deeply. -/
def tooDeep (isObject : Bool) : Failure :=
  .other "RecursionError" ("maximum recursion depth exceeded while decoding a JSON "
    ++ (if isObject then "object" else "array") ++ " from a unicode string")

/-- The value that the body holds: what it says as JSON, or its text. -/
def value (response : WireResponse) : Except Failure Value :=
  match Json.readBytes response.body with
  | .ok v => .ok v
  | .error (.tooDeep isObject) => .error (tooDeep isObject)
  | .error _ => response.text.map .string

/-! ### Success -/

def statusText (response : WireResponse) (address : Address) : String :=
  s!"{StatusCode.family response.status} '{response.status} {StatusCode.reason response.status}'"
    ++ s!" for url '{address.text}'\n"
    ++ (match response.location? with
      | some location => s!"Redirect location: '{location}'\n"
      | none => "")
    ++ "For more information check: https://developer.mozilla.org/en-US/docs/Web/HTTP/Status/"
    ++ toString response.status

/-- Refuses a status that is no success. -/
def requireSuccess (response : WireResponse) (address : Address) : Except Failure Unit :=
  if StatusCode.isSuccess response.status then .ok ()
  else .error (.other "HTTPStatusError" (response.statusText address))

end WireResponse

end Runbook
