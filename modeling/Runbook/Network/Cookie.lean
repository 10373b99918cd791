import Runbook.Entries
import Runbook.Network.Address
import Runbook.Network.Cookie.Expiry

/-!
Cookies: what servers ask a client to send back, which of it the client keeps, and what it sends with
a later request.
-/

namespace Runbook

structure Cookie where
  name : String
  /-- The value; a cookie may be a name alone. -/
  value : Option String
  domain : String
  path : String
  secure : Bool
  /-- The second at whose start the cookie is no longer valid. -/
  expires : Option Int
  /-- The ports that the cookie is for, any port when there are none. -/
  ports : List String
deriving DecidableEq, Repr

namespace Cookie

/-! ### Where a request goes -/

/-- What decides about cookies in the address of a request. -/
structure Destination where
  scheme : String
  host : String
  path : String
  port : Option String

/-- The user and the host in small letters, without a port; a host without a dot is a local one. -/
def hostOf (authority : String) : String :=
  let (before, after) := Address.splitLast ':' authority.toList
  let host := if !after.isEmpty && after.all Char.isDigit && after.length < authority.length
    then before else authority.toList
  let host := host.map Char.toLower
  String.ofList (if host.contains '.' then host else host ++ ".local".toList)

def isPathSafe (c : Char) : Bool :=
  c.isAlphanum || "_.-~%/;:@&=+$,!*'()".contains c

/-- The escapes of a path with capital digits. -/
def capitalEscapes : List Char → List Char
  | [] => []
  | '%' :: a :: b :: rest =>
    if (Text.hexValue? a).isSome && (Text.hexValue? b).isSome
    then '%' :: a.toUpper :: b.toUpper :: capitalEscapes rest
    else '%' :: capitalEscapes (a :: b :: rest)
  | c :: rest => c :: capitalEscapes rest

def plainPath (path : String) : String :=
  String.ofList (capitalEscapes (Text.Percent.encode isPathSafe path).toList)

def Destination.ofAddress (address : Address) : Destination :=
  let path := plainPath address.path
  let authority := Text.Percent.decode address.authority
  { scheme := address.scheme
    host := hostOf address.authority
    path := if path.startsWith "/" then path else "/" ++ path
    port := match Address.splitAt? ':' authority.toList with
      | some (_, port) => (Decimal.integerOf? port).map fun _ => String.ofList port
      | none => some "80" }

/-! ### What a server asks for -/

/-- A part of what a server sends, by its name, with the value if there is one. -/
abbrev Attribute := String × Option String

def trimmed (cs : List Char) : String :=
  String.ofList (Text.trimBlank cs)

/-- The parts between semicolons. A first part without a name takes everything with it; other parts
without one do not count. -/
def attributes (header : String) : List Attribute :=
  let parts := (Hostname.pieces (· == ';') header.toList).map fun part =>
    let part := Text.trimBlank part
    match Address.splitAt? '=' part with
    | some (name, value) => (trimmed name, some (trimmed value))
    | none => (trimmed part, none)
  match parts with
  | [] => []
  | first :: rest => if first.1.isEmpty then [] else first :: rest.filter fun part => !part.1.isEmpty

def withoutQuotes (s : String) : List Char :=
  let cs := if s.startsWith "\"" then s.toList.drop 1 else s.toList
  if cs.getLast? == some '"' then cs.dropLast else cs

/-- What a cookie asks for besides its name and value. -/
structure Wish where
  domain : Option String
  path : Option String
  ports : Option String
  /-- Whether the cookie is for the port of the request alone. -/
  samePort : Bool
  secure : Option String
  version : Option String
  expires : Option Int
  /-- Whether an age was given in place of a date. -/
  hasAge : Bool

def Wish.empty : Wish := {
  domain := none, path := none, ports := none, samePort := false, secure := none
  version := none, expires := none, hasAge := false }

/-- Why a cookie is not kept: it is malformed, or so malformed that none of its fellows are kept. -/
inductive Refusal where
  | cookie
  | all
deriving DecidableEq, Repr

/-- Takes one attribute into account. The first of equal names counts, an age before a date. -/
def Wish.take (now : Instant) (wish : Wish) (part : Attribute) : Except Refusal Wish :=
  let (name, value) := part
  match name.toLower with
  | "domain" =>
    if wish.domain.isSome then .ok wish
    else match value with
      | some domain => .ok { wish with domain := some domain.toLower }
      | none => .error .cookie
  | "path" =>
    if wish.path.isSome then .ok wish
    else match value with
      | some path => .ok { wish with path := some path }
      | none => .error .cookie
  | "port" => .ok (if wish.ports.isSome || wish.samePort then wish
      else { wish with ports := value, samePort := value.isNone })
  | "secure" => .ok (if wish.secure.isSome then wish
      else { wish with secure := some (value.getD "true") })
  | "version" =>
    if wish.version.isSome then .ok wish
    else match value with
      | some version => .ok { wish with version := some (String.ofList (withoutQuotes version)) }
      | none => .error .cookie
  | "expires" => .ok (if wish.expires.isSome || wish.hasAge then wish
      else { wish with expires := value.bind fun date => expiry? now (withoutQuotes date) })
  | "max-age" => match value with
    | none => .error .all
    | some age => match Decimal.integerOf? age.toList with
      | some seconds => .ok { wish with expires := some (now.seconds + seconds), hasAge := true }
      | none => .error .cookie
  | _ => .ok wish

/-- The path of the directory that a request is for, which a cookie is for that names no path. -/
def defaultPath (path : String) (keepsSlash : Bool) : String :=
  let before := (Address.splitLast '/' path.toList).1
  let path := String.ofList (if keepsSlash then before ++ ['/'] else before)
  if path.isEmpty then "/" else path

/-- What becomes of a cookie that a server sends. -/
inductive Outcome where
  | kept (cookie : Cookie)
  /-- An older cookie of the same domain, path and name is to be forgotten. -/
  | expired (domain path name : String)
  | refused

/-- Whether a server may set a cookie for a domain that it names. -/
def mayName (host domain : String) : Bool :=
  let bare := if domain.startsWith "." then String.ofList (domain.toList.drop 1) else domain
  (bare.contains '.' || host.endsWith ".local")
    && (host.endsWith domain || host.endsWith (bare ++ ".local") || host.startsWith "."
      || ("." ++ host).endsWith domain)

/-- Whether a cookie may be set for the given ports. -/
def admitsPort (destination : Destination) (ports : List String) : Bool :=
  (ports.takeWhile (· != destination.port.getD "80")).all
      (fun port => (Decimal.integerOf? port.toList).isSome)
    && ports.contains (destination.port.getD "80")

def decide (now : Instant) (destination : Destination) (name : String) (value : Option String)
    (wish : Wish) : Outcome :=
  match Decimal.integerOf? (wish.version.getD "0").toList with
  | none => .refused
  | some version =>
    let domain := match wish.domain with
      | some domain => if domain.startsWith "." then domain else "." ++ domain
      | none => destination.host
    let path := match wish.path.filter fun path => !path.isEmpty with
      | some path => plainPath path
      | none => defaultPath destination.path (version != 0)
    let ports := match wish.ports with
      | some ports => ((ports.toList.filter fun c => !Text.isBlank c)
          |> Hostname.pieces (· == ',')).map String.ofList
      | none => if wish.samePort then destination.port.toList else []
    if wish.expires.any (· ≤ now.seconds) then .expired domain path name
    else if 1 < version || (wish.domain.isSome && !mayName destination.host domain)
      || (wish.ports.isSome && !admitsPort destination ports) then .refused
    else .kept { name, value, domain, path, ports
                 secure := wish.secure.any fun text => !text.isEmpty
                 expires := wish.expires }

/-- What becomes of the cookies in the given headers, one header after another. -/
def outcomes (now : Instant) (destination : Destination) (headers : List String) :
    List Outcome :=
  let results := headers.filterMap fun header => match attributes header with
    | [] => none
    | (name, value) :: rest => some (match rest.foldlM (Wish.take now) Wish.empty with
      | .ok wish => .ok (Cookie.decide now destination name value wish)
      | .error refusal => .error refusal)
  if results.any fun result => match result with
    | .error .all => true
    | _ => false
  then []
  else results.filterMap Except.toOption

/-! ### What a client sends -/

/-- Whether a cookie goes along with a request. -/
def goesTo (now : Instant) (destination : Destination) (cookie : Cookie) : Bool :=
  let domain := if cookie.domain.isEmpty || cookie.domain.startsWith "." then cookie.domain
    else "." ++ cookie.domain
  ("." ++ destination.host).endsWith domain
    && (destination.path == cookie.path || (destination.path.startsWith cookie.path
      && (cookie.path.endsWith "/"
        || (destination.path.toList.drop cookie.path.length).head? == some '/')))
    && (!cookie.secure || destination.scheme == "https" || destination.scheme == "wss")
    && !cookie.expires.any (· ≤ now.seconds)
    && (cookie.ports.isEmpty || cookie.ports.contains (destination.port.getD "80"))

def text (cookie : Cookie) : String :=
  match cookie.value with
  | some value => cookie.name ++ "=" ++ value
  | none => cookie.name

end Cookie

/-- The cookies that a client has, by domain, path and name. -/
abbrev CookieStore := Entries (Entries (Entries Cookie))

namespace CookieStore

/-- Applies a function to what is filed under a name; nothing is filed there yet when it gets the
default. -/
def update {α : Type} (entries : Entries α) (key : String) (default : α) (f : α → α) : Entries α :=
  Entries.put entries key (f ((Entries.get? entries key).getD default))

def keep (store : CookieStore) (cookie : Cookie) : CookieStore :=
  update store cookie.domain [] fun paths => update paths cookie.path [] fun names =>
    Entries.put names cookie.name cookie

def forget (store : CookieStore) (domain path name : String) : CookieStore :=
  store.map fun (d, paths) => (d, if d = domain then paths.map fun (p, names) =>
    (p, if p = path then names.filter fun entry => entry.1 != name else names) else paths)

/-- The store after the answer to a request: first what has expired is forgotten. -/
def take (now : Instant) (address : Address) (headers : List String) (store : CookieStore) :
    CookieStore :=
  let outcomes := Cookie.outcomes now (Cookie.Destination.ofAddress address) headers
  let store := outcomes.foldl (fun store outcome => match outcome with
    | .expired domain path name => store.forget domain path name
    | _ => store) store
  outcomes.foldl (fun store outcome => match outcome with
    | .kept cookie => store.keep cookie
    | _ => store) store

def cookies (store : CookieStore) : List Cookie :=
  store.flatMap fun domain => domain.2.flatMap fun path => path.2.map (·.2)

/-- The header for a request, if any cookie goes along; those for longer paths come first. -/
def header? (now : Instant) (address : Address) (store : CookieStore) : Option String :=
  let chosen := store.cookies.filter (·.goesTo now (Cookie.Destination.ofAddress address))
  let sorted := chosen.mergeSort fun a b => b.path.length ≤ a.path.length
  if sorted.isEmpty then none else some ("; ".intercalate (sorted.map Cookie.text))

end CookieStore

end Runbook
