import Runbook.Json.Strict
import Runbook.Json.Writer
import Runbook.Network.Cookie
import Runbook.Network.Exchange

/-!
Sessions of a client: requests to addresses, which carry the credentials of the address and the
cookies of the session, and the redirects that follow.
-/

namespace Runbook

/-- The answer to a request, the address that it came from in the end, and the cookies of the session
from then on. -/
structure Received where
  address : Address
  response : WireResponse
  cookies : CookieStore

namespace Session

variable {σ : Type}

/-! ### Requests -/

/-- An address that cookies are looked up for names a scheme. -/
def checkScheme (address : Address) : Except Failure Unit :=
  let cs := address.text.toList
  let name := cs.takeWhile fun c => c != '/' && c != ':'
  if !name.isEmpty && (cs.drop name.length).head? == some ':' then .ok ()
  else .error (.other "ValueError" s!"unknown url type: {Value.showText address.text}")

/-- The headers of a request with the cookies of the session, unless it has cookies of its own. -/
def withCookies (now : Instant) (cookies : CookieStore) (address : Address)
    (headers : Entries String) : Except Failure (Entries String) :=
  if cookies.cookies.isEmpty then .ok headers
  else (checkScheme address).map fun () => match cookies.header? now address with
    | some text => if Entries.has headers "cookie" then headers
      else Entries.put headers "cookie" text
    | none => headers

/-- The headers of a request with the credentials that its address names. -/
def withCredentials (address : Address) (headers : Entries String) : Entries String :=
  match address.authorization? with
  | some credentials => Entries.put headers "authorization" credentials
  | none => headers

/-- A request as it is sent first. The address is looked at before the headers, and those before the
body. -/
def request (now : Instant) (cookies : CookieStore) (method url : String)
    (headers : List (String × String)) (body : Except Failure String) (timeout : Option Number) :
    Except Failure WireRequest := do
  let address ← (Address.ofText url).mapError Address.Fault.toFailure
  let address := Address.empty.under address
  Headers.check headers
  let body ← body
  let headers ← withCookies now cookies address (Headers.ofEntries headers)
  return { method, address, headers := withCredentials address headers, body, timeout }

/-! ### Redirects -/

/-- How many redirects of one call are followed. -/
def redirectLimit : Nat := 20

/-- The method of the request that follows a redirect. -/
def methodAfter (status : Int) (method : String) : String :=
  if (status == 302 || status == 303) && method != "HEAD" then "GET"
  else if status == 301 && method == "POST" then "GET"
  else method

/-- The address that a redirect leads to. -/
def addressAfter (address : Address) (location : String) : Except Failure Address :=
  match Address.ofText location with
  | .error fault => .error (.transport .remoteProtocol
      s!"Invalid URL in location header: {fault.message}.")
  | .ok _ => (address.redirected location).mapError Address.Fault.toFailure

/-- The request that follows a redirect. Credentials go along to the same origin only, or to the same
host made secure; a request that turns into `GET` loses its body. -/
def requestAfter (now : Instant) (cookies : CookieStore) (request : WireRequest) (status : Int)
    (location : String) : Except Failure WireRequest := do
  let address ← addressAfter request.address location
  let method := methodAfter status request.method
  let losesBody := method != request.method && method == "GET"
  let trusted := address.sameOrigin request.address || request.address.securedBy address
  let headers := Headers.remove request.headers ("cookie"
    :: (if trusted then [] else ["authorization"])
    ++ (if losesBody then ["content-length", "transfer-encoding"] else []))
  let headers ← withCookies now cookies address headers
  return { request with
    method, address, headers, body := if losesBody then "" else request.body }

/-! ### Exchanges -/

/-- Sends a request and keeps the cookies of its answer. -/
def exchange (network : Network σ) (request : WireRequest) (cookies : CookieStore) :
    Dialogue σ Received := do
  let packed ← network.exchange request
  let response ← Dialogue.ofExcept packed.unpacked
  Dialogue.ofExcept (checkScheme request.address)
  let now ← Dialogue.look network.clock
  return {
    address := request.address
    response
    cookies := cookies.take now request.address (response.values "set-cookie") }

/-- Sends a request and those that follow redirects, at most the given number of them. A redirect must
lead to an address, whether it is followed or not. -/
def send (network : Network σ) (follows : Bool) :
    Nat → WireRequest → CookieStore → Dialogue σ Received
  | left, request, cookies => do
    let received ← exchange network request cookies
    match received.response.location? with
    | none => pure received
    | some location =>
      let now ← Dialogue.look network.clock
      let next ← Dialogue.ofExcept
        (requestAfter now received.cookies request received.response.status location)
      if !follows then pure received
      else match left with
        | 0 => Dialogue.raise (.transport .tooManyRedirects "Exceeded maximum allowed redirects.")
        | left + 1 => send network follows left next received.cookies

/-- A text as the body of a request. -/
def textBody (s : String) : Except Failure String :=
  match Failure.notUtf8? s with
  | some failure => .error failure
  | none => .ok s

/-- A value as the body of a request. -/
def jsonBody (v : Value) : Except Failure String :=
  if v.isFinite then textBody (Json.write Json.plain v) else .error .outOfRange

/-- Posts a value as JSON; redirects are not followed. -/
def post (network : Network σ) (cookies : CookieStore) (url : String) (payload : Value)
    (headers : List (String × String)) (timeout : Option Number) : Dialogue σ Received := do
  let now ← Dialogue.look network.clock
  let request ← Dialogue.ofExcept
    (request now cookies "POST" url headers (jsonBody payload) timeout)
  let headers := Entries.put request.headers "content-type" "application/json"
  send network false redirectLimit { request with headers } cookies

end Session

end Runbook
