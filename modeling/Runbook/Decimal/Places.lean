import Runbook.Decimal.Shortest

/-!
Decimal digits to a given place: a count of places after the point, a count of places after the first
digit, or a count of digits in whichever of the two forms is shorter.
-/

namespace Runbook.Decimal

/-- The number `m * 2 ^ e` in units of the given place after the point, a half to even. -/
def unitsAt (places m : Nat) (e : Int) : Nat :=
  let (scale, grid) := gridRatio e (-places)
  Double.roundQuotient (4 * m * scale) grid

/-- Two groups of digits with a point between them, which is left out before an empty group unless it
is to be kept. -/
def withPoint (pointKept : Bool) (whole places : List Char) : List Char :=
  if places.isEmpty && !pointKept then whole else whole ++ '.' :: places

/-- The number with so many places after the point. -/
def fixedText (pointKept : Bool) (places m : Nat) (e : Int) : List Char :=
  let digits := Nat.toDigits 10 (unitsAt places m e)
  let digits := List.replicate (places + 1 - digits.length) '0' ++ digits
  let whole := digits.length - places
  withPoint pointKept (digits.take whole) (digits.drop whole)

/-- The digits filled up with zeros to the given count. -/
def filled (count : Nat) (digits : List Char) : List Char :=
  digits ++ List.replicate (count - digits.length) '0'

/-- The number rounded to so many digits, zero being zero. -/
def roundedDigits (count m : Nat) (e : Int) : Digits :=
  if m = 0 then { digits := ['0'], lead := 0 } else rounded count m e

/-- Digits as a power of ten. -/
def powerText (pointKept : Bool) (digits : List Char) (lead : Int) : List Char :=
  withPoint pointKept (digits.take 1) (digits.drop 1) ++ (exponentText lead).toList

/-- The number as a power of ten with so many places after its first digit. -/
def scientificText (pointKept : Bool) (places m : Nat) (e : Int) : List Char :=
  let d := roundedDigits (places + 1) m e
  powerText pointKept (filled (places + 1) d.digits) d.lead

/-- The number rounded to so many digits, at least one. Exponents of the first digit from -4 up to the
count are written with a point. The zeros at the end are left out, or kept together with the point. -/
def generalText (zerosKept : Bool) (count m : Nat) (e : Int) : List Char :=
  let count := max 1 count
  let d := roundedDigits count m e
  let digits := if zerosKept then filled count d.digits else d.digits
  if d.lead < -4 || count ≤ d.lead then powerText zerosKept digits d.lead
  else if d.lead < 0 then
    withPoint zerosKept ['0'] (List.replicate (-d.lead - 1).toNat '0' ++ digits)
  else
    let whole := d.lead.toNat + 1
    withPoint zerosKept (filled whole (digits.take whole)) (digits.drop whole)

end Runbook.Decimal
