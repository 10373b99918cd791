import Runbook.Failure
import Runbook.Network.Headers
import Runbook.Text.Base64
import Runbook.Text.Blank
import Runbook.Text.Digit
import Runbook.Text.Lines
import Runbook.Text.Utf8
import Runbook.Value.Literal

/-!
Header fields of mail messages. A value of several lines is written on lines of its own, which must
begin with a blank; a value that is not ASCII is written in encoded words.
-/

namespace Runbook.Mail.Header

/-! ### Encoded words -/

def safeInWord (byte : UInt8) : Bool :=
  let c := Char.ofNat byte.toNat
  c.isAlphanum || "!*+-/".contains c

/-- A byte of an encoded word of the kind that leaves most of ASCII readable. -/
def quotedByte (byte : UInt8) : List Char :=
  if byte = 0x20 then ['_']
  else if safeInWord byte then [Char.ofNat byte.toNat]
  else ['=', Text.hexDigit (byte.toNat / 16), Text.hexDigit (byte.toNat % 16)]

/-- A text as one encoded word, in the shorter of the two forms. -/
def encodedWord (cs : List Char) : List Char :=
  let bytes := Text.Utf8.encode (String.ofList cs)
  let quoted := bytes.flatMap quotedByte
  let packed := Text.Base64.encode bytes
  if bytes.isEmpty then []
  else if packed.length < quoted.length then "=?utf-8?b?".toList ++ packed ++ ['?', '=']
  else "=?utf-8?q?".toList ++ quoted ++ ['?', '=']

/-! ### Values -/

def isSpace (c : Char) : Bool :=
  c == ' ' || c == '\t'

/-- A line without the space at its end, if that stands alone there. -/
def withoutLastSpace (line : List Char) : List Char :=
  match line.reverse with
  | ' ' :: rest => if rest.head?.any isSpace then line else rest.reverse
  | _ => line

/-- One more line after those of a value, the last of which comes first. Blank lines do not stand by
themselves. -/
def addLine (written : List (List Char)) (line : List Char) : List (List Char) :=
  match withoutLastSpace line, written with
  | [], _ => written
  | line, last :: before =>
    if line.all Text.isBlank then (last ++ line) :: before else line :: last :: before
  | line, [] => [line]

/-- The lines of a value as they are written. -/
def writtenLines (cs : List Char) : List (List Char) :=
  if cs.all Headers.isAscii then match Text.lines cs with
    | [] => [[]]
    | [line] => [line]
    | first :: rest => (rest.foldl addLine [withoutLastSpace first]).reverse
  else match Text.lines cs with
    | [] => [[]]
    | first :: rest =>
      encodedWord first :: rest.map fun line => ' ' :: encodedWord (' ' :: line.dropWhile Text.isBlank)

/-- Whether a text after a line break looks like the name of a field, up to its colon. -/
def beginsField (cs : List Char) : Bool :=
  ((cs.takeWhile (!isSpace ·)).drop 1).contains ':'

/-- Whether something stands after a line break in a text for which the condition holds. -/
def afterBreak (holds : List Char → Bool) : List Char → Bool
  | [] => false
  | c :: rest => (c == '\n' && holds rest) || afterBreak holds rest

/-- A field with its line break. A value must not hold what could be taken for another field. -/
def field (name value : String) : Except Failure String :=
  let value := ['\n'].intercalate (writtenLines value.toList)
  let text := name ++ ": " ++ String.ofList value ++ "\n"
  if afterBreak beginsField value then
    .error (.other "HeaderParseError" ("header value appears to contain an embedded header: "
      ++ Value.showText (String.ofList value)))
  else if afterBreak (·.head?.any (!isSpace ·)) value then
    .error (.other "HeaderWriteError" ("folded header contains newline: " ++ Value.showText text))
  else .ok text

end Runbook.Mail.Header
