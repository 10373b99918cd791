import Runbook.Double

/-!
Decimal digits of floating-point numbers: the fewest that read back as the same number, or a fixed
count of significant digits.
-/

namespace Runbook.Decimal

/-- The number `d₁.d₂d₃… * 10 ^ lead`. -/
structure Digits where
  digits : List Char
  lead : Int
deriving DecidableEq, Repr

/-- The digits of `d * 10 ^ unit`, without the zeros at the end. -/
def Digits.ofUnits (d : Nat) (unit : Int) : Digits :=
  let all := Nat.toDigits 10 d
  { digits := (all.reverse.dropWhile (· == '0')).reverse
    lead := all.length - 1 + unit }

/-- `k * 2 ^ (e - 2)` is `k * scale / grid` units of `10 ^ unit`, for these `scale` and `grid`. -/
def gridRatio (e unit : Int) : Nat × Nat :=
  (Double.powerOfTwo (e - 2).toNat * Double.powerOfTen (-unit).toNat,
    Double.powerOfTwo (2 - e).toNat * Double.powerOfTen unit.toNat)

/-- The exponent of the leading digit of `m * 2 ^ e`. -/
def leadingTen (m : Nat) (e : Int) : Int :=
  let guess := (m.log2 + e) * 30103 / 100000
  let reaches (ten : Int) : Bool :=
    let (scale, grid) := gridRatio e ten
    grid ≤ 4 * m * scale
  if reaches (guess + 1) then guess + 1 else if reaches guess then guess else guess - 1

/-- The reals that round to `m * 2 ^ e` lie between these two quarters of `2 ^ e`. The gap below a
power of two is half as wide. -/
def roundingInterval (m : Nat) (e : Int) : Nat × Nat :=
  (if m = Double.leastFull ∧ Double.leastExponent < e then 4 * m - 1 else 4 * m - 2, 4 * m + 2)

/-- Of the two neighbours of `m * 2 ^ e` among the multiples of `10 ^ unit`, the nearest that rounds
to `m * 2 ^ e`. The ends of the rounding interval belong to an even significand. -/
def nearestOnGrid? (m : Nat) (e unit : Int) : Option Nat :=
  let (scale, grid) := gridRatio e unit
  let (low, high) := roundingInterval m e
  let readsBack (d : Nat) : Bool :=
    if m % 2 = 0 then low * scale ≤ d * grid && d * grid ≤ high * scale
    else low * scale < d * grid && d * grid < high * scale
  let value := 4 * m * scale
  let below := value / grid
  match readsBack below, readsBack (below + 1) with
  | true, true =>
    let twice := 2 * (value % grid)
    some (if grid < twice || (twice == grid && below % 2 == 1) then below + 1 else below)
  | true, false => some below
  | false, true => some (below + 1)
  | false, false => none

/-- The shortest digits of the positive number `m * 2 ^ e`; 17 always suffice. -/
def shortest (m : Nat) (e : Int) : Digits :=
  let lead := leadingTen m e
  let found := (List.range 17).findSome? fun (extra : Nat) =>
    (nearestOnGrid? m e (lead - extra)).map fun d => Digits.ofUnits d (lead - extra)
  found.getD { digits := [], lead }

/-- The positive number `m * 2 ^ e` rounded to `count` significant digits by a rule for quotients. -/
def roundedBy (round : Nat → Nat → Nat) (count : Nat) (m : Nat) (e : Int) : Digits :=
  let unit := leadingTen m e - count + 1
  let (scale, grid) := gridRatio e unit
  Digits.ofUnits (round (4 * m * scale) grid) unit

/-- The positive number `m * 2 ^ e` rounded to `count` significant digits, a half to even. -/
def rounded (count : Nat) (m : Nat) (e : Int) : Digits :=
  roundedBy Double.roundQuotient count m e

/-- How digits are laid out. Exponents of the leading digit from `fixedFrom` up to, and not with,
`fixedBelow` are written with a point, others as powers of ten with at least two exponent digits;
`wholeMark` follows a whole number written with a point, and `singleMark` a single digit before a power
of ten. -/
structure Layout where
  fixedFrom : Int
  fixedBelow : Int
  wholeMark : String
  singleMark : String
  nanText : String
  infinityText : String

def exponentText (x : Int) : String :=
  let digits := toString x.natAbs
  (if x < 0 then "e-" else "e+") ++ (if digits.length < 2 then "0" ++ digits else digits)

/-- The digits with a point, or with a power of ten. -/
def Layout.place (layout : Layout) (d : Digits) : String :=
  if layout.fixedFrom ≤ d.lead && d.lead < layout.fixedBelow then
    if d.lead < 0 then
      "0." ++ String.ofList (List.replicate (-d.lead - 1).toNat '0' ++ d.digits)
    else
      let wholeDigits := d.lead.toNat + 1
      let whole := d.digits.take wholeDigits
      let whole := String.ofList (whole ++ List.replicate (wholeDigits - whole.length) '0')
      let rest := d.digits.drop wholeDigits
      if rest.isEmpty then whole ++ layout.wholeMark else whole ++ "." ++ String.ofList rest
  else
    let fraction := match d.digits.tail with
      | [] => layout.singleMark
      | rest => "." ++ String.ofList rest
    String.ofList (d.digits.take 1) ++ fraction ++ exponentText d.lead

/-- The text of a number whose digits are chosen by `choose`. -/
def Layout.render (layout : Layout) (choose : Nat → Int → Digits) : Double → String
  | .nan _ => layout.nanText
  | .infinite negative => (if negative then "-" else "") ++ layout.infinityText
  | .finite negative m e =>
    let digits := if m = 0 then { digits := ['0'], lead := 0 } else choose m e
    (if negative then "-" else "") ++ layout.place digits

/-- Numbers in plain text: a point below `10 ^ 16`, and `.0` on whole numbers. -/
def plainLayout : Layout := ⟨-4, 16, ".0", "", "nan", "inf"⟩

/-- Numbers in structured text, where the special ones have names of their own. -/
def structuredLayout : Layout := ⟨-4, 16, ".0", "", "NaN", "Infinity"⟩

/-- Six significant digits, with a point below a million. -/
def briefLayout : Layout := ⟨-4, 6, "", "", "nan", "inf"⟩

end Runbook.Decimal

namespace Runbook.Double

def plainText (d : Double) : String :=
  Decimal.plainLayout.render Decimal.shortest d

def structuredText (d : Double) : String :=
  Decimal.structuredLayout.render Decimal.shortest d

def briefText (d : Double) : String :=
  Decimal.briefLayout.render (Decimal.rounded 6) d

end Runbook.Double
