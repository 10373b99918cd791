import Runbook.Decimal.Reading
import Runbook.Failure
import Runbook.Network.Reference
import Runbook.Text.Base64

/-!
Web addresses in their plain form: scheme and host in small letters, the usual port left out,
everything encoded that cannot stand in an address, and an absolute path without `.` and `..`.
-/

namespace Runbook

structure Address where
  scheme : String
  /-- The user and the password, as they stand in the address. -/
  user : String
  host : String
  port : Option Int
  path : String
  query : Option String
  fragment : Option String
deriving DecidableEq, Repr

namespace Address

/-! ### Faults -/

inductive Fault where
  | tooLong
  | control (c : Char) (position : Nat)
  | host (text : String) (fault : Hostname.Fault)
  | port (text : String)
  | rootlessPath
  | doubleSlash
  | leadingColon
  /-- A surrogate that stands alone, where it would have to be encoded. -/
  | notEncodable (surrogate : Nat)
deriving Repr

def Fault.message : Fault → String
  | .tooLong => "URL too long"
  | .control c position => s!"Invalid non-printable ASCII character in URL, "
      ++ s!"{Value.showText c.toString} at position {position}."
  | .host text fault => fault.message text
  | .port text => s!"Invalid port: {Value.showText text}"
  | .rootlessPath => "For absolute URLs, path must be empty or begin with '/'"
  | .doubleSlash => "Relative URLs cannot have a path starting with '//'"
  | .leadingColon => "Relative URLs cannot have a path starting with ':'"
  | .notEncodable surrogate => s!"'utf-8' codec can't encode character "
      ++ s!"'{Text.escapedCode surrogate}' in position 0: surrogates not allowed"

/-- The failure that a fault is. -/
def Fault.toFailure : Fault → Failure
  | .notEncodable surrogate => .other "UnicodeEncodeError" (Fault.notEncodable surrogate).message
  | fault => .invalidAddress fault.message

/-! ### Characters that need no encoding -/

def isGraphic (c : Char) : Bool :=
  0x20 < c.toNat && c.toNat < 0x7F

def safeInFragment (c : Char) : Bool :=
  isGraphic c && !"\"<>`".contains c

def safeInQuery (c : Char) : Bool :=
  isGraphic c && !"\"#<>".contains c

def safeInPath (c : Char) : Bool :=
  safeInQuery c && !"?`\x7b\x7d".contains c

def safeInUser (c : Char) : Bool :=
  safeInPath c && !"/;=@[\\]^|".contains c

/-! ### Taking an address apart -/

/-- The parts of an address as they are written. -/
structure Parts where
  scheme : List Char
  user : List Char
  host : List Char
  port : List Char
  path : List Char
  query : Option (List Char)
  fragment : Option (List Char)

/-- Splits at the first character of a kind, which is dropped. -/
def splitAt? (mark : Char) (cs : List Char) : Option (List Char × List Char) :=
  let before := cs.takeWhile (· != mark)
  if before.length < cs.length then some (before, cs.drop (before.length + 1)) else none

/-- The text before the last character of a kind and the text after it; nothing comes before when
there is no such character. -/
def splitLast (mark : Char) (cs : List Char) : List Char × List Char :=
  let after := (cs.reverse.takeWhile (· != mark)).reverse
  ((cs.take (cs.length - after.length)).dropLast, after)

/-- The scheme, which may be empty before its colon, and the rest. -/
def splitScheme (cs : List Char) : List Char × List Char :=
  let name := if cs.head?.any Char.isAlpha then cs.takeWhile Reference.isSchemeChar else []
  match cs.drop name.length with
  | ':' :: rest => (name, rest)
  | _ => ([], cs)

/-- The host, in brackets or up to a colon or an at sign, and the port after it. -/
def splitHost (cs : List Char) : List Char × List Char :=
  let bracketed := match cs with
    | '[' :: _ => (splitLast ']' cs).1
    | _ => []
  let host := if bracketed.isEmpty then cs.takeWhile fun c => c != ':' && c != '@'
    else bracketed ++ [']']
  let rest := cs.drop host.length
  (host, if rest.head? == some ':' then rest.drop 1 else rest)

def Parts.ofChars (cs : List Char) : Parts :=
  let (scheme, rest) := splitScheme cs
  let (authority, rest) := match rest with
    | '/' :: '/' :: rest =>
      let authority := rest.takeWhile fun c => c != '/' && c != '?' && c != '#'
      (authority, rest.drop authority.length)
    | _ => ([], rest)
  let (rest, fragment) := match splitAt? '#' rest with
    | some (rest, fragment) => (rest, some fragment)
    | none => (rest, none)
  let (path, query) := match splitAt? '?' rest with
    | some (path, query) => (path, some query)
    | none => (rest, none)
  let (user, place) := splitLast '@' authority
  let (host, port) := splitHost place
  { scheme, user, host, port, path, query, fragment }

/-! ### The plain form -/

def usualPorts : List (String × Int) := [
  ("ftp", 21), ("http", 80), ("https", 443), ("ws", 80), ("wss", 443)]

/-- The port that a text names, none for no text and for the usual port of the scheme. -/
def readPort (scheme : String) (text : List Char) : Except Fault (Option Int) :=
  if text.isEmpty then .ok none
  else match Decimal.integerOf? text with
    | none => .error (.port (String.ofList text))
    | some port => .ok (if usualPorts.lookup scheme == some port then none else some port)

/-- The path without `.` and `..`. -/
def plainPath (path : List Char) : List Char :=
  let segments := Hostname.pieces (· == '/') path
  if segments.any Reference.isDots then
    let kept := segments.foldl (fun kept segment =>
      if segment == ['.'] then kept
      else if segment == ['.', '.'] then
        if kept == [[]] then kept else kept.drop 1
      else segment :: kept) []
    ['/'].intercalate kept.reverse
  else path

/-- The first thing that is wrong with a path. -/
def pathFault? (hasScheme hasAuthority : Bool) (path : List Char) : Option Fault :=
  if hasAuthority then
    if !path.isEmpty && path.head? != some '/' then some .rootlessPath else none
  else if hasScheme then none
  else if path.take 2 == ['/', '/'] then some .doubleSlash
  else if path.head? == some ':' then some .leadingColon
  else none

def encodeChars (safe : Char → Bool) (cs : List Char) : Except Fault String :=
  match (Text.codes cs).find? Text.isSurrogate with
  | some surrogate => .error (.notEncodable surrogate)
  | none => .ok (Text.Percent.encode safe (String.ofList cs))

def encodeOptional (safe : Char → Bool) : Option (List Char) → Except Fault (Option String)
  | some cs => (encodeChars safe cs).map some
  | none => .ok none

/-- The address of its parts. -/
def ofParts (parts : Parts) : Except Fault Address := do
  let scheme := (String.ofList parts.scheme).toLower
  let user ← encodeChars safeInUser parts.user
  let host ← match Hostname.encode (String.ofList parts.host) with
    | .ok host => .ok host
    | .error fault => .error (Fault.host (String.ofList parts.host) fault)
  let port ← readPort (String.ofList parts.scheme) parts.port
  let hasScheme := !scheme.isEmpty
  let hasAuthority := !user.isEmpty || !host.isEmpty || port.isSome
  match pathFault? hasScheme hasAuthority parts.path with
  | some fault => .error fault
  | none =>
    let path := if hasScheme || hasAuthority then plainPath parts.path else parts.path
    let path ← encodeChars safeInPath path
    let query ← encodeOptional safeInQuery parts.query
    let fragment ← encodeOptional safeInFragment parts.fragment
    return { scheme, user, host, port, path, query, fragment }

/-- The greatest length of an address. -/
def lengthLimit : Nat := 65536

/-- The first control character of ASCII in a text, and where it stands. -/
def control? (codes : List Nat) : Option (Char × Nat) :=
  (codes.zipIdx.find? fun entry => entry.1 < 0x20 || entry.1 == 0x7F).map fun entry =>
    (Char.ofNat entry.1, entry.2)

/-- Reads an address; it need not be complete. -/
def ofText (s : String) : Except Fault Address :=
  let codes := Text.codes s.toList
  if lengthLimit < codes.length then .error .tooLong
  else match control? codes with
    | some (c, position) => .error (.control c position)
    | none => ofParts (Parts.ofChars s.toList)

/-! ### Its text -/

/-- The host and the port. -/
def place (address : Address) : String :=
  (if address.host.toList.contains ':' then s!"[{address.host}]" else address.host)
    ++ (match address.port with | some port => s!":{port}" | none => "")

def authority (address : Address) : String :=
  (if address.user.isEmpty then "" else address.user ++ "@") ++ address.place

/-- The path with the query; an empty path is a slash. -/
def target (address : Address) : String :=
  (if address.path.isEmpty then "/" else address.path)
    ++ (match address.query with | some query => "?" ++ query | none => "")

def text (address : Address) : String :=
  (if address.scheme.isEmpty then "" else address.scheme ++ ":")
    ++ (if address.authority.isEmpty then "" else "//" ++ address.authority)
    ++ address.path
    ++ (match address.query with | some query => "?" ++ query | none => "")
    ++ (match address.fragment with | some fragment => "#" ++ fragment | none => "")

/-! ### Operations -/

def isAbsolute (address : Address) : Bool :=
  !address.scheme.isEmpty && !address.host.isEmpty

def empty : Address :=
  { scheme := "", user := "", host := "", port := none, path := "", query := none, fragment := none }

/-- The address that a request goes to from the given root; an absolute one stays as it is. -/
def under (root address : Address) : Address :=
  if address.isAbsolute then address
  else
    let target := '/' :: address.target.toList.dropWhile (· == '/')
    let (path, query) := match splitAt? '?' target with
      | some (path, query) => (path, some (String.ofList query))
      | none => (target, none)
    { root with
      path := String.ofList (if root.isAbsolute then plainPath path else path)
      query }

/-- An address some of whose parts are new, in its plain form again: the escapes of its host are in
small letters. -/
def renewed (address : Address) : Except Fault Address :=
  match pathFault? (!address.scheme.isEmpty) (!address.authority.isEmpty) address.path.toList with
  | some fault => .error fault
  | none => .ok { address with
      host := if address.host.toList.contains ':' then address.host else address.host.toLower
      port := if usualPorts.lookup address.scheme == address.port then none else address.port }

/-- The address that a reference means at a base. -/
def join (base reference : Address) : Except Fault Address :=
  ofText (String.ofList (Reference.join base.text.toList reference.text.toList))

/-- The address that a text leads to when it is met at a base. A host that the text leaves out is that
of the base, and so is a fragment. -/
def redirected (base : Address) (location : String) : Except Fault Address := do
  let there ← ofText location
  let there ← if !there.scheme.isEmpty && there.host.isEmpty
    then renewed { there with host := base.host } else .ok there
  let there ← if there.isAbsolute then .ok there else base.join there
  if (there.fragment.getD "").isEmpty && !(base.fragment.getD "").isEmpty then
    let fragment ← encodeOptional safeInFragment
      (base.fragment.map fun text => (Text.Percent.decode text).toList)
    renewed { there with fragment }
  else .ok there

/-- The port that a connection to the address uses. -/
def effectivePort (address : Address) : Option Int :=
  address.port.or ([("http", 80), ("https", 443)].lookup address.scheme)

def sameOrigin (a b : Address) : Bool :=
  a.scheme == b.scheme && a.host == b.host && a.effectivePort == b.effectivePort

/-- Whether the second address is the first one made secure, both at the usual port. -/
def securedBy (a b : Address) : Bool :=
  a.host == b.host && a.scheme == "http" && a.effectivePort == some 80
    && b.scheme == "https" && b.effectivePort == some 443

/-- How a request proves that it may use the address, if the address names a user or a password. -/
def authorization? (address : Address) : Option String :=
  let (user, password) := match splitAt? ':' address.user.toList with
    | some (user, password) => (user, password)
    | none => (address.user.toList, [])
  let user := Text.Percent.decode (String.ofList user)
  let password := Text.Percent.decode (String.ofList password)
  if user.isEmpty && password.isEmpty then none
  else some ("Basic "
    ++ String.ofList (Text.Base64.encode (Text.Utf8.encode (user ++ ":" ++ password))))

end Address

end Runbook
