import Runbook.Double

/-!
Numbers of runtime data: whole numbers of any size beside floating-point ones. They compare by exact
value; nothing compares with a number that is not one.
-/

namespace Runbook

inductive Number where
  | int (n : Int)
  | double (d : Double)
deriving DecidableEq, Repr, Inhabited

namespace Number

/-- Whole numbers from this one on do not fit into a word of 64 bits. -/
def wordLimit : Int := 9223372036854775808

/-- Where a number lies on the line that the two infinities close. -/
inductive Place where
  | negativeInfinity
  | exactly (m : Int) (e : Int)
  | positiveInfinity
deriving Repr

def place? : Number → Option Place
  | .int n => some (.exactly n 0)
  | .double (.nan _) => none
  | .double (.infinite true) => some .negativeInfinity
  | .double (.infinite false) => some .positiveInfinity
  | .double (.finite true m e) => some (.exactly (-m) e)
  | .double (.finite false m e) => some (.exactly m e)

/-- The order of `m₁ * 2 ^ e₁` and `m₂ * 2 ^ e₂`, both taken as multiples of the lesser power. -/
def Place.compareExact (m₁ e₁ m₂ e₂ : Int) : Ordering :=
  let e := min e₁ e₂
  compare (m₁ * Double.powerOfTwo (e₁ - e).toNat) (m₂ * Double.powerOfTwo (e₂ - e).toNat)

def Place.compare : Place → Place → Ordering
  | .exactly m₁ e₁, .exactly m₂ e₂ => compareExact m₁ e₁ m₂ e₂
  | .negativeInfinity, .negativeInfinity => .eq
  | .positiveInfinity, .positiveInfinity => .eq
  | .negativeInfinity, _ => .lt
  | _, .negativeInfinity => .gt
  | .positiveInfinity, _ => .gt
  | _, .positiveInfinity => .lt

/-- The order of two numbers, or `none` when one of them is not a number. -/
def order? (a b : Number) : Option Ordering :=
  match a.place?, b.place? with
  | some x, some y => some (x.compare y)
  | _, _ => none

/-- Equal in value, whatever the kind. -/
def eq (a b : Number) : Bool :=
  a.order? b == some .eq

/-- Equal, or one and the same object, as what is not a number is in all JSON texts. -/
def same (a b : Number) : Bool :=
  a.eq b || (a == .double (.nan true) && b == .double (.nan true))

def zero : Number := .int 0

def isZero (a : Number) : Bool :=
  a.eq zero

/-- At most zero. -/
def isNonPositive (a : Number) : Bool :=
  a.order? zero == some .lt || a.order? zero == some .eq

/-- A whole number beyond all finite floating-point ones. -/
def isOversized : Number → Bool
  | .int n => !(Double.ofInt n).isFinite
  | .double _ => false

end Number

end Runbook
