import Runbook.Failure
import Runbook.Text.Digit

/-!
Patterns of paths. Text in a pattern stands for itself; a name in braces, perhaps with a kind after a
colon, stands for any text of that kind.
-/

namespace Runbook.Web

/-- What a parameter of a path stands for. -/
inductive ParameterKind where
  /-- Text without a slash. -/
  | segment
  /-- Any text on one line. -/
  | rest
  | whole
  | decimal
  | uuid
deriving DecidableEq, Repr

inductive PathPiece where
  | literal (c : Char)
  | parameter (name : String) (kind : ParameterKind)
deriving DecidableEq, Repr

abbrev PathPattern := List PathPiece

namespace ParameterKind

def ofName? : String → Option ParameterKind
  | "str" => some .segment
  | "path" => some .rest
  | "int" => some .whole
  | "float" => some .decimal
  | "uuid" => some .uuid
  | _ => none

def isDigits (cs : List Char) : Bool :=
  !cs.isEmpty && cs.all Char.isDigit

/-- Hexadecimal digits in groups of the given lengths, with or without a hyphen between two groups. -/
def isGrouped : List Nat → List Char → Bool
  | [], cs => cs.isEmpty
  | n :: groups, cs =>
    let group := cs.take n
    let rest := cs.drop n
    group.length == n && group.all (fun c => (Text.hexValue? c).isSome)
      && isGrouped groups (if rest.head? == some '-' && !groups.isEmpty then rest.drop 1 else rest)

def admits : ParameterKind → List Char → Bool
  | .segment, cs => !cs.isEmpty && !cs.contains '/'
  | .rest, cs => !cs.contains '\n'
  | .whole, cs => isDigits cs
  | .decimal, cs =>
    let whole := cs.takeWhile Char.isDigit
    match cs.drop whole.length with
    | [] => isDigits whole
    | '.' :: places => isDigits whole && isDigits places
    | _ => false
  | .uuid, cs => isGrouped [8, 4, 4, 4, 12] cs

end ParameterKind

namespace PathPattern

/-! ### Reading a pattern -/

def isNameStart (c : Char) : Bool :=
  c.isAlpha || c == '_'

/-- A name at the start of a text, and what follows it. -/
def splitName? (cs : List Char) : Option (String × List Char) :=
  let name := cs.takeWhile fun c => c.isAlphanum || c == '_'
  if name.head?.any isNameStart then some (String.ofList name, cs.drop name.length) else none

/-- A parameter without its first brace: its name, the name of its kind, and what follows it. -/
def splitParameter? (cs : List Char) : Option (String × String × List Char) :=
  match splitName? cs with
  | some (name, '\x7d' :: rest) => some (name, "str", rest)
  | some (name, ':' :: rest) => match splitName? rest with
    | some (kind, '\x7d' :: rest) => some (name, kind, rest)
    | _ => none
  | _ => none

/-- The pattern of a text. Braces that hold no parameter stand for themselves; so many characters of
the text as `skip` says belong to a parameter that has been read. -/
def ofChars (skip : Nat) : List Char → Except Failure PathPattern
  | [] => .ok []
  | c :: cs => match skip with
    | skip + 1 => ofChars skip cs
    | 0 => match if c == '\x7b' then splitParameter? cs else none with
      | none => (ofChars 0 cs).map (.literal c :: ·)
      | some (name, kind, rest) => match ParameterKind.ofName? kind with
        | none => .error (.other "AssertionError" s!"Unknown path convertor '{kind}'")
        | some kind => (ofChars (cs.length - rest.length) cs).map (.parameter name kind :: ·)

def names (pattern : PathPattern) : List String :=
  pattern.filterMap fun
    | .literal _ => none
    | .parameter name _ => some name

/-- The names that come more than once, in order. -/
def repeatedNames (pattern : PathPattern) : List String :=
  let names := pattern.names
  (names.filter fun name => 1 < names.count name).eraseDups.mergeSort fun a b => a ≤ b

/-- The pattern of a text; the names of its parameters are different. -/
def ofText (s : String) : Except Failure PathPattern := do
  let pattern ← ofChars 0 s.toList
  match pattern.repeatedNames with
  | [] => .ok pattern
  | [name] => .error (.other "ValueError" s!"Duplicated param name {name} at path {s}")
  | names => .error (.other "ValueError"
      ("Duplicated param names " ++ ", ".intercalate names ++ " at path " ++ s))

/-! ### Meeting a path -/

/-- Whether the whole path is of the pattern; a newline at its end does not count. -/
def matchesPath : PathPattern → List Char → Bool
  | [], cs => cs == [] || cs == ['\n']
  | .literal c :: pattern, cs => match cs with
    | d :: rest => c == d && matchesPath pattern rest
    | [] => false
  | .parameter _ kind :: pattern, cs => (List.range (cs.length + 1)).any fun n =>
    kind.admits (cs.take n) && matchesPath pattern (cs.drop n)

theorem matchesPath_literals (s : List Char) (hs : '\n' ∉ s) (path : List Char)
    (hpath : '\n' ∉ path) : matchesPath (s.map .literal) path = true ↔ path = s := by
  induction s generalizing path with
  | nil =>
    cases path with
    | nil => simp [matchesPath]
    | cons d rest =>
      have hd : d ≠ '\n' := by rintro rfl; simp at hpath
      simp [matchesPath, hd]
  | cons c cs ih =>
    cases path with
    | nil => simp [matchesPath]
    | cons d rest =>
      have hrest := ih (fun h => hs (.tail _ h)) rest (fun h => hpath (.tail _ h))
      simp only [List.map_cons, matchesPath, Bool.and_eq_true, beq_iff_eq, hrest, List.cons.injEq]
      exact and_congr_left fun _ => eq_comm

end PathPattern

end Runbook.Web
