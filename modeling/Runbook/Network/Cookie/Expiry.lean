import Runbook.Decimal.Reading
import Runbook.Instant

/-!
Dates in the forms that servers have used for the end of a cookie, such as
`Wed, 09 Feb 1994 22:23:32 GMT` and `08-Feb-94`.
-/

namespace Runbook.Cookie

/-- A date as it is written. -/
structure WrittenDate where
  day : List Char
  month : List Char
  year : List Char
  /-- Hours, minutes and seconds. -/
  clock : List (List Char)
  zone : List Char

def number (digits : List Char) : Nat :=
  Decimal.digitsValue (digits.filterMap Text.asciiDigit?)

def isSpace (c : Char) : Bool :=
  c == ' ' || ('\t' ≤ c && c ≤ '\r')

/-- At least one and at most the given number of digits at the head of a text, and the rest. -/
def digits? (most : Nat) (cs : List Char) : Option (List Char × List Char) :=
  let digits := (cs.take most).takeWhile Char.isDigit
  if digits.isEmpty then none else some (digits, cs.drop digits.length)

/-- What follows a run of blanks or one of the marks. -/
def afterGap? (marks : List Char) : List Char → Option (List Char)
  | [] => none
  | c :: rest =>
    if isSpace c then some (rest.dropWhile isSpace)
    else if marks.contains c then some rest else none

def isMonthChar (c : Char) : Bool :=
  c.isAlphanum || c == '_'

/-- A clock at the head of a text: two numbers, or three, with colons between them. -/
def clock? (cs : List Char) : Option (List (List Char) × List Char) := do
  let (hours, rest) ← digits? 2 (← afterGap? [':'] cs)
  match rest with
  | ':' :: a :: b :: rest =>
    if !a.isDigit || !b.isDigit then none
    else match rest with
      | ':' :: c :: d :: rest' =>
        if c.isDigit && d.isDigit then some ([hours, [a, b], [c, d]], rest')
        else some ([hours, [a, b]], rest)
      | _ => some ([hours, [a, b]], rest)
  | _ => none

/-- Whether a text has nothing but a remark in brackets. -/
def isRemark (cs : List Char) : Bool :=
  match cs with
  | [] => true
  | '(' :: rest =>
    let name := rest.takeWhile isMonthChar
    !name.isEmpty && match rest.drop name.length with
      | ')' :: rest => rest.all isSpace
      | _ => false
  | _ => false

/-- The zone that ends a text, which may be empty. -/
def zone? (cs : List Char) : Option (List Char) :=
  let cs := cs.dropWhile isSpace
  let letters := cs.takeWhile Char.isAlpha
  let sign := if cs.head? == some '-' || cs.head? == some '+' then 1 else 0
  let digits := (cs.drop sign).takeWhile Char.isDigit
  let noon := letters.length == 2 && ['a', 'p'].contains (letters.headD ' ').toLower
    && ((letters.drop 1).headD ' ').toLower == 'm'
  let zone :=
    if 2 ≤ digits.length && digits.length ≤ 4 then cs.take (sign + digits.length)
    else if noon then [] else letters
  if isRemark ((cs.drop zone.length).dropWhile isSpace) then some zone else none

def weekdays : List (List Char) :=
  ["sun", "mon", "tue", "wed", "thu", "fri", "sat"].map String.toList

/-- The text without a day of the week in front. -/
def withoutWeekday (cs : List Char) : List Char :=
  if weekdays.contains ((cs.take 3).map Char.toLower) then
    let rest := (cs.drop 3).dropWhile Char.isAlpha
    (if rest.head? == some ',' then rest.drop 1 else rest).dropWhile isSpace
  else cs

def WrittenDate.ofChars? (cs : List Char) : Option WrittenDate := do
  let cs := withoutWeekday (cs.dropWhile Text.isBlank)
  let (day, rest) ← digits? 2 cs
  let rest ← afterGap? ['-', '/'] rest
  let month := rest.takeWhile isMonthChar
  let rest ← afterGap? ['-', '/'] (rest.drop month.length)
  let year := rest.takeWhile Char.isDigit
  let rest := rest.drop year.length
  if month.isEmpty || year.isEmpty then none
  else
    let plain := (zone? rest).map fun zone => { day, month, year, clock := [], zone : WrittenDate }
    match clock? rest with
    | some (clock, after) => match zone? after with
      | some zone => some { day, month, year, clock, zone }
      | none => plain
    | none => plain

def months : List String := [
  "jan", "feb", "mar", "apr", "may", "jun", "jul", "aug", "sep", "oct", "nov", "dec"]

/-- The number of a month by its name or its number. -/
def month? (cs : List Char) : Option Nat :=
  match months.findIdx? (· == String.ofList (cs.map Char.toLower)) with
  | some n => some (n + 1)
  | none =>
    let n := number cs
    if cs.all Char.isDigit && 1 ≤ n && n ≤ 12 then some n else none

/-- The year that a short year means: the one nearest to the present. -/
def fullYear (present : Int) (year : Nat) : Int :=
  if 1000 ≤ year then year
  else
    let inCentury := present % 100
    let candidate := year + present - inCentury
    let apart := inCentury - year
    if 50 < apart then candidate + 100 else if apart < -50 then candidate - 100 else candidate

/-- How many seconds a zone is ahead of universal time. -/
def offset? (zone : List Char) : Option Int :=
  if zone.isEmpty || ["GMT", "UTC", "UT", "Z"].contains (String.ofList (zone.map Char.toUpper)) then
    some 0
  else
    let (negative, digits) := Decimal.signOf zone
    if digits.isEmpty || 4 < digits.length || !digits.all Char.isDigit then none
    else
      let hours := if digits.length == 3 then digits.take 1 else digits.take 2
      let seconds : Int := 3600 * number hours + 60 * number (digits.drop hours.length)
      some (if negative then -seconds else seconds)

/-- The seconds from the start of 1970 to a date, if it is a date since then. -/
def WrittenDate.seconds? (date : WrittenDate) (present : Int) : Option Int := do
  let month ← month? date.month
  if 9999 < number date.year then none
  else
    let year := fullYear present (number date.year)
    let part (n : Nat) := number (date.clock.getD n [])
    let day := number date.day
    if year < 1970 || day < 1 || 31 < day || 24 < part 0 || 59 < part 1 || 61 < part 2 then none
    else
      let days := Instant.Day.count ⟨year, month, day⟩
      return days * 86400 + part 0 * 3600 + part 1 * 60 + part 2 - (← offset? date.zone)

/-- The seconds from the start of 1970 to the date that a text holds. -/
def expiry? (now : Instant) (cs : List Char) : Option Int :=
  (WrittenDate.ofChars? cs).bind fun date =>
    date.seconds? (Instant.Day.ofCount (now.micros / 86400000000)).year

end Runbook.Cookie
