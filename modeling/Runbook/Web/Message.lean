import Runbook.Instant
import Runbook.Network.Address
import Runbook.Network.Headers
import Runbook.Text.Case

/-!
Requests to the web service and its answers. Header names are in small letters.
-/

namespace Runbook.Web

structure Request where
  method : String
  scheme : String
  /-- The host that the request was sent to, with its port. -/
  host : String
  /-- The path, decoded. -/
  path : String
  query : Option String
  headers : Entries String
  body : List UInt8
deriving Repr

/-- Headers with their names in small letters; the first of equal names counts. -/
def lowered (headers : Entries String) : Entries String :=
  headers.foldl (fun kept header =>
    if Entries.has kept header.1.toLower then kept
    else Entries.put kept header.1.toLower header.2) []

namespace Request

/-- A request for an address, which is taken at the root of the service. The address is looked at
before the headers, and those before the body. -/
def compose (root : Address) (method url : String) (headers : List (String × String))
    (body : Except Failure String) : Except Failure Request := do
  let address ← (Address.ofText url).mapError Address.Fault.toFailure
  let address := root.under address
  Headers.check headers
  let body ← body
  let headers := lowered headers
  return {
    method := Text.upper method
    scheme := address.scheme
    host := (Entries.get? headers "host").getD address.place
    path := if address.path.isEmpty then "/" else Text.Percent.decode address.path
    query := address.query
    headers
    body := Text.Utf8.encode body }

def header? (request : Request) (name : String) : Option String :=
  Entries.get? request.headers name

/-- A path as it is written after a host: the marks of a query and of a fragment are encoded. -/
def writtenPath (path : String) : String :=
  Text.Percent.encode (fun c => c != '?' && c != '#') path

/-- The address of a path on the host of the request, with its query. -/
def locate (request : Request) (path : String) : String :=
  request.scheme ++ "://" ++ request.host ++ writtenPath path ++ (match request.query with
    | some query => if query.isEmpty then "" else "?" ++ query
    | none => "")

/-- The path of the request, as it is shown: on one line and without tabs. -/
def shownPath (request : Request) : String :=
  let cs := (request.host ++ writtenPath request.path).toList.filter fun c =>
    !(['\t', '\n', '\r'].contains c)
  let isMark (c : Char) : Bool := c == '?' || c == '#'
  String.ofList ((cs.dropWhile fun c => c != '/' && !isMark c).takeWhile (!isMark ·))

end Request

inductive Content where
  | nothing
  | json (v : Value)
  | plain (text : String)
  /-- A page for people. -/
  | page
deriving Repr

structure Answer where
  status : Int
  headers : Entries String
  content : Content
deriving Repr

namespace Answer

def withHeader (answer : Answer) (name value : String) : Answer :=
  { answer with headers := Entries.put answer.headers name value }

/-- The answer as it is sent to someone who wants no content. -/
def withoutContent (answer : Answer) : Answer :=
  { answer with content := .nothing }

def json (status : Int) (v : Value) : Answer :=
  { status, headers := [("content-type", "application/json")], content := .json v }

def plain (status : Int) (text : String) : Answer :=
  { status, headers := [("content-type", "text/plain; charset=utf-8")], content := .plain text }

def page : Answer :=
  { status := 200, headers := [("content-type", "text/html; charset=utf-8")], content := .page }

/-- What has gone wrong with the exchange as such. -/
def detail (status : Int) (v : Value) : Answer :=
  json status (.object [("detail", v)])

/-- A request that was not met, and why. -/
def refusal (status : Int) (error : String) (now : Instant) : Answer :=
  json status (.object [("success", .bool false), ("error", .string error),
    ("timestamp", .string now.text)])

/-- Characters that stand as they are where an answer names another address. -/
def safeInLocation (c : Char) : Bool :=
  c.isAlphanum || "_.-~:/%#?=@[]!$&'()*+,".contains c

/-- The same request is to be sent to another address. -/
def moved (location : String) : Answer :=
  { status := 307, headers := [("location", Text.Percent.encode safeInLocation location)]
    content := .nothing }

end Answer

end Runbook.Web
