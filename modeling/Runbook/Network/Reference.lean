import Runbook.Network.Hostname

/-!
References to web addresses, taken apart by the generic rules, and what a reference means when it is
met at a base. A part that is empty counts as absent.
-/

namespace Runbook

structure Reference where
  scheme : List Char
  authority : List Char
  path : List Char
  /-- What follows a semicolon in the last segment of the path. -/
  parameters : List Char
  query : List Char
  fragment : List Char
deriving DecidableEq, Repr

namespace Reference

/-- The part before the first mark and the part after it, which is empty when there is no mark. -/
def cut (mark : Char) (cs : List Char) : List Char × List Char :=
  let before := cs.takeWhile (· != mark)
  (before, cs.drop (before.length + 1))

def isSchemeChar (c : Char) : Bool :=
  c.isAlphanum || c == '+' || c == '-' || c == '.'

/-- The scheme in small letters and the rest, if a scheme comes first. -/
def scheme? (cs : List Char) : Option (List Char × List Char) :=
  let name := cs.takeWhile isSchemeChar
  match name, cs.drop name.length with
  | first :: _, ':' :: rest => if first.isAlpha then some (name.map Char.toLower, rest) else none
  | _, _ => none

/-- Schemes with addresses that are relative to one another. -/
def relativeSchemes : List String := [
  "", "ftp", "http", "gopher", "nntp", "imap", "wais", "file", "https", "shttp", "mms", "prospero",
  "rtsp", "rtsps", "rtspu", "sftp", "svn", "svn+ssh", "ws", "wss"]

/-- Schemes whose paths may end with parameters. -/
def parameterSchemes : List String := [
  "", "ftp", "hdl", "prospero", "http", "imap", "https", "shttp", "rtsp", "rtsps", "rtspu", "sip",
  "sips", "mms", "sftp", "tel"]

/-- A path and the parameters of its last segment. -/
def splitParameters (path : List Char) : List Char × List Char :=
  let last := (path.reverse.takeWhile (· != '/')).reverse
  if last.contains ';' then
    let (segment, parameters) := cut ';' last
    (path.take (path.length - last.length) ++ segment, parameters)
  else (path, [])

/-- Takes a reference apart; one without a scheme has the given one. -/
def ofChars (scheme : List Char) (cs : List Char) : Reference :=
  let (scheme, rest) := (scheme? cs).getD (scheme, cs)
  let (authority, rest) := match rest with
    | '/' :: '/' :: rest =>
      let authority := rest.takeWhile fun c => c != '/' && c != '?' && c != '#'
      (authority, rest.drop authority.length)
    | _ => ([], rest)
  let (rest, fragment) := cut '#' rest
  let (path, query) := cut '?' rest
  let (path, parameters) :=
    if parameterSchemes.contains (String.ofList scheme) then splitParameters path else (path, [])
  { scheme, authority, path, parameters, query, fragment }

/-- A part after its mark, or nothing when the part is empty. -/
def marked (mark : Char) (part : List Char) : List Char :=
  if part.isEmpty then [] else mark :: part

def chars (reference : Reference) : List Char :=
  let path := reference.path ++ marked ';' reference.parameters
  let path :=
    if reference.authority.isEmpty && reference.scheme.isEmpty && path.take 2 != ['/', '/'] then path
    else ['/', '/'] ++ reference.authority
      ++ (if path.isEmpty || path.head? == some '/' then path else '/' :: path)
  (if reference.scheme.isEmpty then path else reference.scheme ++ ':' :: path)
    ++ marked '?' reference.query ++ marked '#' reference.fragment

/-- Resolves the segments `.` and `..`; the segments kept so far are in reverse. -/
def resolveDots (kept : List (List Char)) : List (List Char) → List (List Char)
  | [] => kept.reverse
  | segment :: rest =>
    if segment == ['.', '.'] then resolveDots (kept.drop 1) rest
    else if segment == ['.'] then resolveDots kept rest
    else resolveDots (segment :: kept) rest

def isDots (segment : List Char) : Bool :=
  segment == ['.'] || segment == ['.', '.']

/-- The segments with the empty ones inside left out. -/
def withoutGaps (segments : List (List Char)) : List (List Char) :=
  match segments with
  | [] => []
  | first :: rest => match rest.getLast? with
    | none => [first]
    | some last => first :: (rest.dropLast.filter fun segment => !segment.isEmpty) ++ [last]

/-- The path of a reference, taken at the path of a base. -/
def joinPaths (base path : List Char) : List Char :=
  let segments :=
    if path.head? == some '/' then Hostname.pieces (· == '/') path
    else
      let parts := Hostname.pieces (· == '/') base
      let parts := if parts.getLast?.any List.isEmpty then parts else parts.dropLast
      withoutGaps (parts ++ Hostname.pieces (· == '/') path)
  let resolved := resolveDots [] segments
    ++ if segments.getLast?.any isDots then [[]] else []
  let joined := ['/'].intercalate resolved
  if joined.isEmpty then ['/'] else joined

/-- What a reference means at a base. -/
def join (base reference : List Char) : List Char :=
  if base.isEmpty then reference
  else if reference.isEmpty then base
  else
    let here := ofChars [] base
    let there := ofChars here.scheme reference
    if there.scheme != here.scheme || !relativeSchemes.contains (String.ofList there.scheme) then
      reference
    else if !there.authority.isEmpty then there.chars
    else if there.path.isEmpty && there.parameters.isEmpty then
      { here with
        query := if there.query.isEmpty then here.query else there.query
        fragment := there.fragment }.chars
    else { there with authority := here.authority, path := joinPaths here.path there.path }.chars

end Reference

end Runbook
