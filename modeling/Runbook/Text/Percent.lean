import Runbook.Text.Digit
import Runbook.Text.Utf8

/-!
Percent encoding: a byte is written as a percent sign and two hexadecimal digits.
-/

namespace Runbook.Text.Percent

def escape (byte : UInt8) : List Char :=
  ['%', hexDigit (byte.toNat / 16), hexDigit (byte.toNat % 16)]

/-- A text in which every code point that is not safe is encoded. Surrogates that stand alone have no
encoding of their own; whoever encodes a text refuses them first. -/
def encode (safe : Char → Bool) (s : String) : String :=
  String.ofList ((codes s.toList).flatMap fun code =>
    if safe (Char.ofNat code) then ofCode code else (Utf8.encodeCode code).flatMap escape)

def hexByte? (byte : UInt8) : Option Nat :=
  hexValue? (Char.ofNat byte.toNat)

/-- The bytes that the bytes of a text stand for: an encoded byte for itself, as any other. -/
def bytes : List UInt8 → List UInt8
  | [] => []
  | 0x25 :: a :: b :: rest => match hexByte? a, hexByte? b with
    | some high, some low => UInt8.ofNat (high * 16 + low) :: bytes rest
    | _, _ => 0x25 :: bytes (a :: b :: rest)
  | byte :: rest => byte :: bytes rest

/-- The text that an encoded text stands for. -/
def decode (s : String) : String :=
  mended (Utf8.decode false (bytes (Utf8.encode s)))

theorem hexByte?_hexDigit {n : Nat} (h : n < 16) : hexByte? (hexDigit n).toUInt8 = some n := by
  have hall : ∀ m ∈ List.range 16, hexByte? (hexDigit m).toUInt8 = some m := by decide
  exact hall n (List.mem_range.mpr h)

theorem bytes_escape (byte : UInt8) (rest : List UInt8) :
    bytes ((escape byte).map Char.toUInt8 ++ rest) = byte :: bytes rest := by
  have hlt := byte.toNat_lt
  have hhigh : byte.toNat / 16 < 16 := by omega
  have hlow : byte.toNat % 16 < 16 := Nat.mod_lt _ (by decide)
  have hsum : byte.toNat / 16 * 16 + byte.toNat % 16 = byte.toNat := by omega
  have hsign : Char.toUInt8 '%' = 0x25 := by decide
  simp [escape, bytes, hsign, hexByte?_hexDigit hhigh, hexByte?_hexDigit hlow, hsum]

end Runbook.Text.Percent
