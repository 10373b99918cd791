import Runbook.Network.Coding.Inflate
import Runbook.Text.Blank
import Runbook.Value

/-!
Content codings: how the body of a response is packed for the way.
-/

namespace Runbook

inductive Coding where
  | plain
  | gzip
  | deflate
deriving DecidableEq, Repr

namespace Coding

def ofName? (name : String) : Option Coding :=
  [("identity", plain), ("gzip", gzip), ("deflate", deflate)].lookup name

/-- The codings that a header names, in the order in which they were applied; unknown ones do not
count. -/
def ofHeader (header : String) : List Coding :=
  (header.splitOn ",").filterMap fun name =>
    ofName? (String.ofList (Text.trimBlank name.toList)).toLower

/-- The words for bytes that cannot be unpacked. -/
def faultText (message : String) : String :=
  "Error -3 while decompressing data: " ++ message

/-- The two bytes that every archive begins with. -/
def archiveMark : List UInt8 := [0x1F, 0x8B]

/-- The length of the header of an archive, if the bytes hold all of it. -/
def archiveHeaderLength? (bytes : List UInt8) : Option Nat :=
  let flags := (bytes.getD 3 0).toNat
  let afterExtra := if flags.testBit 2
    then 12 + (bytes.getD 10 0).toNat + (bytes.getD 11 0).toNat * 256 else 10
  let skipText (wanted : Bool) (start : Nat) : Nat :=
    if wanted then start + ((bytes.drop start).takeWhile (· != 0)).length + 1 else start
  let afterName := skipText (flags.testBit 3) afterExtra
  let afterRemark := skipText (flags.testBit 4) afterName
  let length := if flags.testBit 1 then afterRemark + 2 else afterRemark
  if length ≤ bytes.length then some length else none

/-- The bytes that an archive holds. -/
def unpackArchive (bytes : List UInt8) : Except String (List UInt8) :=
  if bytes.length < 2 then .ok []
  else if bytes.take 2 != archiveMark then .error (faultText "incorrect header check")
  else match archiveHeaderLength? bytes with
    | none => .ok []
    | some length => (Inflate.raw (bytes.drop length)).mapError fun fault => faultText fault.message

def unpack (coding : Coding) (bytes : List UInt8) : Except String (List UInt8) :=
  match coding with
  | .plain => .ok bytes
  | .gzip => unpackArchive bytes
  | .deflate => (Inflate.unpack bytes).mapError fun fault => faultText fault.message

/-- Undoes codings, the last one first. -/
def unpackAll (codings : List Coding) (bytes : List UInt8) : Except String (List UInt8) :=
  codings.reverse.foldlM (fun bytes coding => coding.unpack bytes) bytes

end Coding

end Runbook
