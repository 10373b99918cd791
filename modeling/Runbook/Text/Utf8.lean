import Runbook.Text.Code

/-!
Code points from their UTF-8 bytes, one byte at a time. Bytes that can begin or continue no code point
are faults; what is broken off counts as one fault up to the first byte that does not fit. Surrogates
have bytes too, which are faults unless they are let pass.
-/

namespace Runbook.Text.Utf8

/-- A code point under way: the bits so far, how many bytes are missing, and the least and the
greatest byte that may come next. -/
structure Partial where
  bits : Nat
  missing : Nat
  least : Nat
  greatest : Nat

/-- What a first byte beyond the 128 single ones begins. -/
def opening? (passes : Bool) (byte : Nat) : Option Partial :=
  if byte < 0xC2 then none
  else if byte < 0xE0 then some ⟨byte - 0xC0, 1, 0x80, 0xBF⟩
  else if byte < 0xF0 then
    some ⟨byte - 0xE0, 2, if byte = 0xE0 then 0xA0 else 0x80,
      if byte = 0xED && !passes then 0x9F else 0xBF⟩
  else if byte < 0xF5 then
    some ⟨byte - 0xF0, 3, if byte = 0xF0 then 0x90 else 0x80, if byte = 0xF4 then 0x8F else 0xBF⟩
  else none

/-- The code points of bytes, `none` for each fault. -/
def decodeFrom (passes : Bool) (state : Option Partial) : List UInt8 → List (Option Nat)
  | [] => match state with
    | none => []
    | some _ => [none]
  | byte :: rest =>
    let begin : List (Option Nat) × Option Partial :=
      if byte.toNat < 0x80 then ([some byte.toNat], none)
      else match opening? passes byte.toNat with
        | some started => ([], some started)
        | none => ([none], none)
    let (out, state) := match state with
      | none => begin
      | some p =>
        if p.least ≤ byte.toNat ∧ byte.toNat ≤ p.greatest then
          let bits := p.bits * 64 + (byte.toNat - 0x80)
          if p.missing ≤ 1 then ([some bits], none)
          else ([], some ⟨bits, p.missing - 1, 0x80, 0xBF⟩)
        else (none :: begin.1, begin.2)
    out ++ decodeFrom passes state rest

def decode (passes : Bool) (bytes : List UInt8) : List (Option Nat) :=
  decodeFrom passes none bytes

/-- The bytes of a code point. -/
def encodeCode (code : Nat) : List UInt8 :=
  let next (n : Nat) := UInt8.ofNat (0x80 + n % 64)
  if code < 0x80 then [UInt8.ofNat code]
  else if code < 0x800 then [UInt8.ofNat (0xC0 + code / 64), next code]
  else if code < 0x10000 then [UInt8.ofNat (0xE0 + code / 4096), next (code / 64), next code]
  else [UInt8.ofNat (0xF0 + code / 262144), next (code / 4096), next (code / 64), next code]

/-- The bytes of a text. -/
def encode (s : String) : List UInt8 :=
  (codes s.toList).flatMap encodeCode

end Runbook.Text.Utf8

namespace Runbook.Text

/-- The text of decoded code points; a replacement character stands for each fault. -/
def mended (decoded : List (Option Nat)) : String :=
  String.ofList (ofCodes (decoded.map (·.getD 0xFFFD)))

/-- The text of decoded code points, if there is no fault. -/
def faultless? (decoded : List (Option Nat)) : Option String :=
  (decoded.mapM id).map fun codes => String.ofList (ofCodes codes)

end Runbook.Text
