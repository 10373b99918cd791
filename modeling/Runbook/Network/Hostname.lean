import Runbook.Network.Hostname.Letters
import Runbook.Text.Case
import Runbook.Text.Percent
import Runbook.Text.Punycode
import Runbook.Value.Literal

/-!
The hosts of web addresses: numeric addresses of both lengths, plain names and names in any script,
and how each is written in an address.
-/

namespace Runbook.Hostname

/-- Splits a text at every occurrence of a mark. -/
def pieces (mark : Char → Bool) : List Char → List (List Char)
  | [] => [[]]
  | c :: rest =>
    if mark c then [] :: pieces mark rest
    else match pieces mark rest with
      | [] => [[c]]
      | piece :: others => (c :: piece) :: others

/-! ### Numeric addresses -/

/-- Whether a text looks numeric: four rows of digits with a single character between them. -/
def looksNumeric (rows : Nat) : List Char → Bool
  | [] => false
  | [c] => c.isDigit && rows == 0
  | c :: next :: rest =>
    c.isDigit && (looksNumeric rows (next :: rest)
      || (rows != 0 && looksNumeric (rows - 1) rest))

/-- One of the four numbers of a short address: at most 255, without zeros in front. -/
def isOctet (cs : List Char) : Bool :=
  !cs.isEmpty && cs.length ≤ 3 && cs.all Char.isDigit && (cs.length == 1 || cs.head? != some '0')
    && cs.foldl (fun n c => n * 10 + (c.toNat - '0'.toNat)) 0 ≤ 255

def isShortAddress (cs : List Char) : Bool :=
  let parts := pieces (· == '.') cs
  parts.length == 4 && parts.all isOctet

def isHextet (cs : List Char) : Bool :=
  !cs.isEmpty && cs.length ≤ 4 && cs.all fun c => (Text.hexValue? c).isSome

/-- The parts of a long address with a short address at the end as two hextets. -/
def hextets? (cs : List Char) : Option (List (List Char)) :=
  let parts := pieces (· == ':') cs
  match parts.getLast? with
  | some last =>
    if parts.length < 3 then none
    else if last.contains '.' then
      if isShortAddress last then some (parts.dropLast ++ [['0'], ['0']]) else none
    else some parts
  | none => none

/-- The places of the empty parts. -/
def gaps (place : Nat) : List (List Char) → List Nat
  | [] => []
  | part :: rest => if part.isEmpty then place :: gaps (place + 1) rest else gaps (place + 1) rest

/-- A long address: eight hextets, or fewer around one pair of colons. -/
def isLongAddress (cs : List Char) : Bool :=
  let (address, zone) := (cs.takeWhile (· != '%'), cs.dropWhile (· != '%'))
  let zoned := zone.isEmpty || (1 < zone.length && !(zone.drop 1).contains '%')
  zoned && !cs.contains '/' && match hextets? address with
    | none => false
    | some parts =>
      let first := (parts.head?.getD []).isEmpty
      let last := (parts.getLast?.getD []).isEmpty
      let inner := (parts.drop 1).dropLast
      match gaps 0 inner with
      | [] => parts.length == 8 && parts.all isHextet
      | [gap] =>
        let before := parts.take (gap + 1)
        let after := parts.drop (gap + 2)
        let before := if first then before.drop 1 else before
        let after := if last then after.dropLast else after
        (!first || before.isEmpty) && (!last || after.isEmpty)
          && before.length + after.length ≤ 7
          && before.all isHextet && after.all isHextet
      | _ => false

/-! ### Names -/

/-- The digits of one set must not be mixed with those of another. -/
def isFirstSetDigit (c : Char) : Bool := 0x660 ≤ c.toNat && c.toNat ≤ 0x669

def isSecondSetDigit (c : Char) : Bool := 0x6F0 ≤ c.toNat && c.toNat ≤ 0x6F9

def isEastAsian (c : Char) : Bool :=
  c != '\u30fb' && ((0x3005 ≤ c.toNat && c.toNat ≤ 0x30FF) || (0x31F0 ≤ c.toNat && c.toNat ≤ 0x31FF)
    || (0x3400 ≤ c.toNat && c.toNat ≤ 0x9FFF) || (0xF900 ≤ c.toNat && c.toNat ≤ 0xFAFF)
    || (0x20000 ≤ c.toNat && c.toNat ≤ 0x323AF))

/-- Whether a character may stand between two others in a label. -/
def fits (label : List Char) (before after : Option Char) (c : Char) : Bool :=
  isLetter c
    || (c == '\u00b7' && before == some 'l' && after == some 'l')
    || (c == '\u30fb' && label.any isEastAsian)
    || (isFirstSetDigit c && !label.any isSecondSetDigit)
    || (isSecondSetDigit c && !label.any isFirstSetDigit)

def allFit (label : List Char) (before : Option Char) : List Char → Bool
  | [] => true
  | c :: rest => fits label before rest.head? c && allFit label (some c) rest

def isArabicDigit (c : Char) : Bool :=
  isFirstSetDigit c || arabicDigits.contains c

def isEuropeanDigit (c : Char) : Bool :=
  isSecondSetDigit c || europeanDigits.contains c

/-- A label with right-to-left characters starts with one and ends with one or with a digit, and
holds nothing else but digits of one kind, hyphens and marks. -/
def runsOneWay (label : List Char) : Bool :=
  if label.any fun c => rightToLeft.contains c || isArabicDigit c then
    (label.head?.any rightToLeft.contains)
      && (label.all fun c => rightToLeft.contains c || isArabicDigit c || isEuropeanDigit c
        || c == '-' || rightToLeftMarks.contains c)
      && !(label.any isArabicDigit && label.any isEuropeanDigit)
      && ((label.reverse.dropWhile rightToLeftMarks.contains).head?.any fun c =>
        rightToLeft.contains c || isArabicDigit c || isEuropeanDigit c)
  else true

def isComposed : List Char → Bool
  | a :: b :: rest => !isDecomposed a b && isComposed (b :: rest)
  | _ => true

/-- Whether a label of a name in any script is well formed. -/
def isLabel (label : List Char) : Bool :=
  !label.isEmpty && isComposed label
    && (label.drop 2).take 2 != ['-', '-']
    && label.head? != some '-' && label.getLast? != some '-'
    && !(label.head?.any markRanges.contains)
    && allFit label none label && runsOneWay label

/-- A label in ASCII. -/
def encodeLabel? (label : List Char) : Option (List Char) :=
  let encoded :=
    if label.all fun c => c.toNat < 128 then
      if label.take 4 == ['x', 'n', '-', '-'] then
        let rest := label.drop 4
        if rest.isEmpty || rest.getLast? == some '-' || !rest.all isLetter then none else some label
      else if isLabel label then some label else none
    else if isLabel label then some (['x', 'n', '-', '-'] ++ Text.Punycode.encode label) else none
  encoded.filter fun cs => cs.length ≤ 63

def isDot (c : Char) : Bool :=
  c == '.' || c == '\u3002' || c == '\uff0e' || c == '\uff61'

/-- A name in any script, written in ASCII. -/
def encodeName? (cs : List Char) : Option String :=
  let labels := pieces isDot cs
  let ended := labels.getLast?.any List.isEmpty
  let labels := if ended then labels.dropLast else labels
  if labels.isEmpty then none
  else (labels.mapM encodeLabel?).bind fun labels =>
    let name := ".".intercalate (labels.map String.ofList) ++ if ended then "." else ""
    if name.length ≤ (if ended then 254 else 253) then some name else none

/-- The characters of a plain name that need no encoding. -/
def isPlain (c : Char) : Bool :=
  c.isAlphanum || "-._~!$&'()*+,;=\"`\x7b\x7d%|\\".contains c

/-! ### Any host -/

/-- What is wrong with a host. -/
inductive Fault where
  | shortAddress
  | longAddress
  | name
deriving DecidableEq, Repr

/-- The words for a fault of the given host. -/
def Fault.message (host : String) : Fault → String
  | .shortAddress => s!"Invalid IPv4 address: {Value.showText host}"
  | .longAddress => s!"Invalid IPv6 address: {Value.showText host}"
  | .name => s!"Invalid IDNA hostname: {Value.showText host}"

/-- A host as it stands in an address; a long numeric address loses its brackets. -/
def encode (host : String) : Except Fault String :=
  let cs := host.toList
  if cs.isEmpty then .ok ""
  else if looksNumeric 3 cs then if isShortAddress cs then .ok host else .error .shortAddress
  else if cs.head? == some '[' && cs.getLast? == some ']' then
    let inner := (cs.drop 1).dropLast
    if isLongAddress inner then .ok (String.ofList inner) else .error .longAddress
  else if cs.all fun c => c.toNat < 128 then .ok (Text.Percent.encode isPlain host.toLower)
  else match encodeName? (Text.lower host).toList with
    | some name => .ok name
    | none => .error .name

end Runbook.Hostname
