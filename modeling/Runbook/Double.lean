/-!
Floating-point numbers of 53 significant bits, as exact values: a finite one is a whole multiple of
a power of two. Numbers enter through `ofQuotient`, which rounds to the nearest one.
-/

namespace Runbook

/-- A 64-bit floating-point number. `finite negative m e` is `m * 2 ^ e` with a sign; its form is
canonical: `m < 2 ^ 53`, and `m` is at least `2 ^ 52` unless `e` is the least exponent. What is not a
number is told apart by where it comes from: all JSON texts share one object, others are apart from it and
from each other. -/
inductive Double where
  | nan (shared : Bool)
  | infinite (negative : Bool)
  | finite (negative : Bool) (significand : Nat) (exponent : Int)
deriving DecidableEq, Repr, Inhabited

namespace Double

def leastExponent : Int := -1074

def greatestExponent : Int := 971

def powerOfTwo (k : Nat) : Nat := Nat.pow 2 k

def powerOfTen (k : Nat) : Nat := Nat.pow 10 k

/-- All significands are below the 53rd power of two. -/
def significandLimit : Nat := 9007199254740992

/-- The 52nd power of two: the least significand of numbers that are not near zero. -/
def leastFull : Nat := 4503599627370496

/-- The quotient rounded to the nearest whole number; a half goes to the even neighbour. -/
def roundQuotient (num den : Nat) : Nat :=
  let floor := num / den
  let twice := 2 * (num % den)
  if den < twice || (den == twice && floor % 2 == 1) then floor + 1 else floor

/-- The quotient `num / (den * 2 ^ e)` as a pair of whole numbers. -/
def scaleQuotient (num den : Nat) (e : Int) : Nat × Nat :=
  if 0 ≤ e then (num, den * powerOfTwo e.toNat) else (num * powerOfTwo (-e).toNat, den)

def finiteOrInfinite (negative : Bool) (significand : Nat) (exponent : Int) : Double :=
  if greatestExponent < exponent then .infinite negative
  else .finite negative significand exponent

/-- The number nearest to `num / den`; a half goes to the even significand, and what lies beyond the
greatest number is infinite. -/
def ofQuotient (negative : Bool) (num den : Nat) : Double :=
  if num = 0 then .finite negative 0 leastExponent
  else
    let guess : Int := num.log2 - den.log2 - 53
    let (n, d) := scaleQuotient num den guess
    let e := max leastExponent (if n / d < significandLimit then guess else guess + 1)
    let (n, d) := scaleQuotient num den e
    let m := roundQuotient n d
    if m = significandLimit then finiteOrInfinite negative leastFull (e + 1)
    else finiteOrInfinite negative m e

def ofInt (n : Int) : Double :=
  ofQuotient (n < 0) n.natAbs 1

/-- The number nearest to `digits * 10 ^ tens`. A power of ten has more than three bits for each ten,
so what is far outside the range is settled by size alone. -/
def ofDecimal (negative : Bool) (digits : Nat) (tens : Int) : Double :=
  if digits = 0 then .finite negative 0 leastExponent
  else if 0 ≤ tens then
    if 1024 ≤ digits.log2 + 3 * tens then .infinite negative
    else ofQuotient negative (digits * powerOfTen tens.toNat) 1
  else if digits.log2 + 1 + 3 * tens ≤ -1075 then .finite negative 0 leastExponent
  else ofQuotient negative digits (powerOfTen (-tens).toNat)

def zero : Double := .finite false 0 leastExponent

def isFinite : Double → Bool
  | .finite .. => true
  | _ => false

/-- Both zeros. -/
def isZero : Double → Bool
  | .finite _ m _ => m == 0
  | _ => false

/-- The whole number that a finite number is, if it is one. -/
def toInt? : Double → Option Int
  | .finite negative m e =>
    let (n, d) := scaleQuotient m 1 (-e)
    if n % d = 0 then some (if negative then -(n / d : Nat) else (n / d : Nat)) else none
  | _ => none

end Double

end Runbook
