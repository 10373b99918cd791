import Runbook.Data
import Runbook.Text.Word

/-!
Templates: texts in which a word between braces stands for a field of the runtime data. A word that
names no field stays as it is written, and what is put in is not read again.
-/

namespace Runbook.Template

/-- A stretch of a template: one character of literal text, or a word between braces. -/
inductive Piece where
  | literal (c : Char)
  | placeholder (word : List Char)
deriving DecidableEq, Repr

/-- The word that a placeholder's opening brace is followed by: word characters up to a closing
brace. -/
def wordAfterBrace? (cs : List Char) : Option (List Char) :=
  let word := cs.takeWhile Text.isWordChar
  if !word.isEmpty && (cs.drop word.length).head? == some '}' then some word else none

/-- The pieces of a template from left to right; the next `skip` characters belong to the piece
before. -/
def piecesFrom (skip : Nat) : List Char → List Piece
  | [] => []
  | c :: rest =>
    match skip with
    | skip + 1 => piecesFrom skip rest
    | 0 => match if c == '{' then wordAfterBrace? rest else none with
      | some word => .placeholder word :: piecesFrom (word.length + 1) rest
      | none => .literal c :: piecesFrom 0 rest

def pieces (template : String) : List Piece :=
  piecesFrom 0 template.toList

/-- A piece as it is written in a template. -/
def Piece.source : Piece → List Char
  | .literal c => [c]
  | .placeholder word => '{' :: word ++ ['}']

/-- A piece with its placeholder filled in. -/
def Piece.fill (data : Data) : Piece → Except Failure String
  | .literal c => .ok c.toString
  | .placeholder word =>
    match Entries.get? data (String.ofList word) with
    | some d => data.stringify d
    | none => .ok (String.ofList (Piece.placeholder word).source)

def fillAll (data : Data) : List Piece → Except Failure String
  | [] => .ok ""
  | piece :: rest => do
    let text ← piece.fill data
    let others ← fillAll data rest
    return text ++ others

/-- The template with every placeholder that names a field replaced by the field's text. -/
def resolve (template : String) (data : Data) : Except Failure String :=
  fillAll data (pieces template)

mutual

/-- Every text inside a value resolved; the names of objects stay. -/
def resolveValue (data : Data) : Value → Except Failure Value
  | .string s => (resolve s data).map .string
  | .list items => (resolveItems data items).map .list
  | .object fields => (resolveFields data fields).map .object
  | v => .ok v

def resolveItems (data : Data) : List Value → Except Failure (List Value)
  | [] => .ok []
  | v :: rest => do
    let v ← resolveValue data v
    let rest ← resolveItems data rest
    return v :: rest

def resolveFields (data : Data) : List (String × Value) → Except Failure (List (String × Value))
  | [] => .ok []
  | (k, v) :: rest => do
    let v ← resolveValue data v
    let rest ← resolveFields data rest
    return (k, v) :: rest

end

end Runbook.Template
