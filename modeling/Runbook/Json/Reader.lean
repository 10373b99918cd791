import Runbook.Json.Token
import Runbook.Text.Charset

/-!
Reading JSON text: a machine that takes one token at a time and keeps the containers that are still
open.
-/

namespace Runbook.Json

/-- Why a text cannot be read. -/
inductive Fault where
  /-- The token at this position, or the place in it, cannot continue the text. -/
  | unreadable (position : Nat)
  | hugeInteger
  /-- A list or an object lies too deep inside others. -/
  | tooDeep (isObject : Bool)
  /-- The bytes are not those of any text. -/
  | noText
deriving DecidableEq, Repr

/-- A container that is open, with what it holds so far. -/
inductive Frame where
  | list (items : List Value)
  | object (fields : Value.Fields) (name : String)

/-- What may come next. -/
inductive Expect where
  | value
  | valueOrClose
  | nameOrClose (fields : Value.Fields)
  | name (fields : Value.Fields)
  | colon (fields : Value.Fields) (name : String)
  | commaOrClose
  | nothing

structure Machine where
  stack : List Frame
  expect : Expect
  /-- The last value that was completed. -/
  value : Value

def Machine.start : Machine := ⟨[], .value, .null⟩

/-- A value is complete: it is the whole text, or the next thing in the container around it. -/
def Machine.complete (m : Machine) (v : Value) : Machine :=
  match m.stack with
  | [] => ⟨[], .nothing, v⟩
  | .list items :: outer => ⟨.list (v :: items) :: outer, .commaOrClose, v⟩
  | .object fields name :: outer =>
    ⟨.object (Entries.put fields name v) name :: outer, .commaOrClose, v⟩

/-- How many containers may be open at once. -/
def nestingLimit : Nat := 975

def Machine.isFull (m : Machine) : Bool :=
  nestingLimit ≤ m.stack.length

def Machine.takeValue (m : Machine) (position : Nat) : Token → Except Fault Machine
  | .openList => if m.isFull then .error (.tooDeep false)
    else .ok { m with stack := .list [] :: m.stack, expect := .valueOrClose }
  | .openObject => if m.isFull then .error (.tooDeep true)
    else .ok { m with expect := .nameOrClose [] }
  | .text s => .ok (m.complete (.string s))
  | .scalar v => .ok (m.complete v)
  | .hugeInteger => .error .hugeInteger
  | .brokenText fault => .error (.unreadable fault)
  | _ => .error (.unreadable position)

def Machine.takeName (m : Machine) (fields : Value.Fields) (position : Nat) :
    Token → Except Fault Machine
  | .text s => .ok { m with expect := .colon fields s }
  | .brokenText fault => .error (.unreadable fault)
  | _ => .error (.unreadable position)

def Machine.step (m : Machine) (position : Nat) (token : Token) : Except Fault Machine :=
  match m.expect, token with
  | .value, token => m.takeValue position token
  | .valueOrClose, .closeList => .ok ({ m with stack := m.stack.drop 1 }.complete (.list []))
  | .valueOrClose, token => m.takeValue position token
  | .nameOrClose _, .closeObject => .ok (m.complete (.object []))
  | .nameOrClose fields, token => m.takeName fields position token
  | .name fields, token => m.takeName fields position token
  | .colon fields name, .colon =>
    .ok { m with stack := .object fields name :: m.stack, expect := .value }
  | .commaOrClose, .comma => match m.stack with
    | .object fields _ :: outer => .ok { m with stack := outer, expect := .name fields }
    | _ => .ok { m with expect := .value }
  | .commaOrClose, .closeList => match m.stack with
    | .list items :: outer => .ok ({ m with stack := outer }.complete (.list items.reverse))
    | _ => .error (.unreadable position)
  | .commaOrClose, .closeObject => match m.stack with
    | .object fields _ :: outer => .ok ({ m with stack := outer }.complete (.object fields))
    | _ => .error (.unreadable position)
  | _, _ => .error (.unreadable position)

def Machine.run (m : Machine) : List (Nat × Token) → Except Fault Machine
  | [] => .ok m
  | (position, token) :: rest => (m.step position token).bind (·.run rest)

/-- The fault with its position as a number of code points of the text. -/
def Fault.within (cs : List Char) : Fault → Fault
  | .unreadable position => .unreadable (Text.codes (cs.take position)).length
  | fault => fault

/-- The value of a text, or the first fault; a text that ends too soon is at fault at its end. -/
def read (s : String) : Except Fault Value :=
  let cs := s.toList
  match Machine.start.run (tokens 0 0 cs) with
  | .error fault => .error (fault.within cs)
  | .ok m => match m.expect with
    | .nothing => .ok m.value
    | _ => .error ((Fault.unreadable cs.length).within cs)

/-- The character set of bytes that hold JSON text: the first characters of such text are ASCII, so
the zeros among the first bytes tell how wide the units are. -/
def charsetOf (bytes : List UInt8) : Text.Charset :=
  if (Text.Charset.orderMark? 4 bytes).isSome then .markedUnits 4
  else if (Text.Charset.orderMark? 2 bytes).isSome then .markedUnits 2
  else match bytes with
    | [0, _] => .utf16 .bigFirst
    | [_, 0] => .utf16 .littleFirst
    | 0 :: b :: _ :: _ :: _ => if b = 0 then .utf32 .bigFirst else .utf16 .bigFirst
    | _ :: 0 :: c :: d :: _ => if c = 0 && d = 0 then .utf32 .littleFirst else .utf16 .littleFirst
    | _ => .markedUtf8

/-- The value of the text that bytes hold. Surrogates that stand alone in it are let pass. -/
def readBytes (bytes : List UInt8) : Except Fault Value :=
  match Text.faultless? ((charsetOf bytes).decode true bytes) with
  | some text => read text
  | none => .error .noText

end Runbook.Json
