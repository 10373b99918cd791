import Runbook.Text.Charset.ByteSet

/-!
Character sets by name, and text from bytes in them.
-/

namespace Runbook.Text

/-- Which of the bytes of a unit comes first. -/
inductive ByteOrder where
  | bigFirst
  | littleFirst
deriving DecidableEq, Repr

inductive Charset where
  | utf8
  /-- UTF-8 in which a byte order mark at the start does not count. -/
  | markedUtf8
  | ascii
  | latin1
  | utf16 (order : ByteOrder)
  | utf32 (order : ByteOrder)
  /-- Units of two or four bytes whose order is told by a byte order mark at the start. -/
  | markedUnits (width : Nat)
  | byteSet (set : ByteSet)

namespace Charset

/-! ### Units of several bytes -/

def ByteOrder.number (order : ByteOrder) (bytes : List UInt8) : Nat :=
  let ordered := match order with
    | .bigFirst => bytes
    | .littleFirst => bytes.reverse
  ordered.foldl (fun n byte => n * 256 + byte.toNat) 0

/-- The numbers that units of two bytes stand for, `none` for one that is broken off. -/
def units16 (order : ByteOrder) : List UInt8 → List (Option Nat)
  | a :: b :: rest => some (ByteOrder.number order [a, b]) :: units16 order rest
  | [] => []
  | _ => [none]

def units32 (order : ByteOrder) : List UInt8 → List (Option Nat)
  | a :: b :: c :: d :: rest => some (ByteOrder.number order [a, b, c, d]) :: units32 order rest
  | [] => []
  | _ => [none]

/-- A unit as a code point; a surrogate is a fault unless it is let pass. -/
def codeOfUnit? (passes : Bool) (unit : Nat) : Option Nat :=
  if unit < 0x110000 ∧ (passes ∨ !isSurrogate unit) then some unit else none

/-- The code points of 16-bit units; a surrogate without its partner stands alone. -/
def joinUnits (passes : Bool) : List (Option Nat) → List (Option Nat)
  | [] => []
  | none :: rest => none :: joinUnits passes rest
  | [some high] => [codeOfUnit? passes high]
  | some high :: next :: rest =>
    if isHighSurrogate high then
      match next with
      | some low =>
        if isLowSurrogate low then some (joinSurrogates high low) :: joinUnits passes rest
        else codeOfUnit? passes high :: joinUnits passes (next :: rest)
      | none => [none]
    else codeOfUnit? passes high :: joinUnits passes (next :: rest)

def decodeUtf16 (passes : Bool) (order : ByteOrder) (bytes : List UInt8) : List (Option Nat) :=
  joinUnits passes (units16 order bytes)

def decodeUtf32 (passes : Bool) (order : ByteOrder) (bytes : List UInt8) : List (Option Nat) :=
  (units32 order bytes).map (·.bind (codeOfUnit? passes))

/-- The order that a byte order mark of the given width tells, and the bytes after it. -/
def orderMark? (width : Nat) (bytes : List UInt8) : Option (ByteOrder × List UInt8) :=
  let mark := bytes.take width
  if mark == List.replicate (width - 2) 0 ++ [0xFE, 0xFF] then some (.bigFirst, bytes.drop width)
  else if mark == [0xFF, 0xFE] ++ List.replicate (width - 2) 0 then
    some (.littleFirst, bytes.drop width)
  else none

/-! ### Any set -/

/-- The code points of bytes, `none` for each fault. Surrogates that stand alone are faults unless they
are let pass. -/
def decode (passes : Bool) : Charset → List UInt8 → List (Option Nat)
  | .utf8, bytes => Utf8.decode passes bytes
  | .markedUtf8, bytes =>
    Utf8.decode passes (if bytes.take 3 == [0xEF, 0xBB, 0xBF] then bytes.drop 3 else bytes)
  | .ascii, bytes => bytes.map fun byte => if byte < 128 then some byte.toNat else none
  | .latin1, bytes => bytes.map fun byte => some byte.toNat
  | .utf16 order, bytes => decodeUtf16 passes order bytes
  | .utf32 order, bytes => decodeUtf32 passes order bytes
  | .markedUnits width, bytes =>
    let (order, bytes) := (orderMark? width bytes).getD (.littleFirst, bytes)
    if width = 2 then decodeUtf16 passes order bytes else decodeUtf32 passes order bytes
  | .byteSet set, bytes => bytes.map fun byte => (set.char? byte).map Char.toNat

/-- Whether a byte order mark that the set calls for is missing. -/
def lacksMark : Charset → List UInt8 → Bool
  | .markedUnits width, bytes => width ≤ bytes.length && (orderMark? width bytes).isNone
  | _, _ => false

/-- The sets with more than one byte for a character, and ASCII and its first extension, each under
all of its names. -/
def named : List (Charset × List String) := [
  (.utf8, ["utf_8", "u8", "utf", "utf8", "utf8_ucs2", "utf8_ucs4", "cp65001"]),
  (.markedUtf8, ["utf_8_sig"]),
  (.ascii, ["ascii", "646", "ansi_x3.4_1968", "ansi_x3_4_1968", "ansi_x3.4_1986",
    "ansi_x3_4_1986", "cp367", "csascii", "ibm367", "iso646_us", "iso_646.irv_1991",
    "iso_646_irv_1991", "iso_ir_6", "us", "us_ascii"]),
  (.latin1, ["latin_1", "8859", "cp819", "csisolatin1", "ibm819", "iso8859", "iso8859_1",
    "iso_8859_1", "iso_8859_1_1987", "iso_ir_100", "l1", "latin", "latin1"]),
  (.markedUnits 2, ["utf_16", "u16", "utf16"]),
  (.utf16 .bigFirst, ["utf_16_be", "unicodebigunmarked", "utf_16be"]),
  (.utf16 .littleFirst, ["utf_16_le", "unicodelittleunmarked", "utf_16le"]),
  (.markedUnits 4, ["utf_32", "u32", "utf32"]),
  (.utf32 .bigFirst, ["utf_32_be", "utf_32be"]),
  (.utf32 .littleFirst, ["utf_32_le", "utf_32le"])]

/-- A name in small letters in which each run of other characters is one underscore; those at the
start do not count. -/
def plainName (gap : Bool) : List Char → List Char
  | [] => []
  | c :: rest =>
    if c.isAlphanum || c == '.' then
      if gap then '_' :: c.toLower :: plainName false rest else c.toLower :: plainName false rest
    else plainName true rest

def ofName? (name : String) : Option Charset :=
  let name := String.ofList (plainName false
    (name.toList.dropWhile fun c => !(c.isAlphanum || c == '.')))
  match named.find? fun entry => entry.2.contains name with
  | some (charset, _) => some charset
  | none => (byteSets.find? fun set => set.names.contains name).map .byteSet

end Charset

end Runbook.Text
