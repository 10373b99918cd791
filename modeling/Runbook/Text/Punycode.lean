/-!
Text of any script in letters and digits of ASCII: the ASCII characters come first, then, for every
other character in the order of code points, how far the insertion point has moved on.
-/

namespace Runbook.Text.Punycode

/-- A number below 36 as a letter or a digit; the letters come first. -/
def digit (n : Nat) : Char :=
  "abcdefghijklmnopqrstuvwxyz0123456789".toList.getD n '9'

/-- The least value of the digit at a place after which more digits follow. -/
def threshold (place bias : Nat) : Nat :=
  if place ≤ bias then 1 else if bias + 26 ≤ place then 26 else place - bias

theorem threshold_pos (place bias : Nat) : 0 < threshold place bias := by
  unfold threshold
  split
  · decide
  · split <;> omega

/-- A distance in digits, the lowest place first. -/
def digits (bias place distance : Nat) : List Char :=
  let t := threshold place bias
  if h : distance < t then [digit distance]
  else digit (t + (distance - t) % (36 - t)) :: digits bias (place + 36) ((distance - t) / (36 - t))
termination_by distance
decreasing_by
  have hpos := threshold_pos place bias
  calc (distance - threshold place bias) / (36 - threshold place bias)
      ≤ distance - threshold place bias := Nat.div_le_self _ _
    _ < distance := by omega

/-- Divides a distance down to the range of one digit, counting the places on the way. -/
def shrink (distance places : Nat) : Nat × Nat :=
  if 455 < distance then shrink (distance / 35) (places + 36) else (distance, places)
termination_by distance
decreasing_by exact Nat.div_lt_self (by omega) (by decide)

/-- The bias for the next distance, when this one was written for the given number of characters. -/
def adapt (distance count : Nat) (first : Bool) : Nat :=
  let scaled := distance / (if first then 700 else 2)
  let (rest, places) := shrink (scaled + scaled / count) 0
  places + 36 * rest / (rest + 38)

/-- What is written so far, the distance since the last character that was, how many characters have
been dealt with, and the bias. -/
structure State where
  written : List Char
  distance : Nat
  count : Nat
  bias : Nat
  first : Bool

/-- Passes one character of the text when the characters of the given code are due. -/
def State.pass (code : Nat) (state : State) (c : Char) : State :=
  if c.toNat < code then { state with distance := state.distance + 1 }
  else if c.toNat = code then
    { written := state.written ++ digits state.bias 36 state.distance
      distance := 0
      count := state.count + 1
      bias := adapt state.distance (state.count + 1) state.first
      first := false }
  else state

/-- Writes the characters of each code in turn; the codes rise. -/
def State.run (text : List Char) (previous : Nat) (state : State) : List Nat → State
  | [] => state
  | code :: rest =>
    let state := { state with
      distance := state.distance + (code - previous) * (state.count + 1) }
    let state := text.foldl (State.pass code) state
    State.run text (code + 1) { state with distance := state.distance + 1 } rest

def encode (text : List Char) : List Char :=
  let plain := text.filter fun c => c.toNat < 128
  let codes := (((text.map Char.toNat).filter (128 ≤ ·)).mergeSort (· ≤ ·)).eraseDups
  let state : State := ⟨[], 0, plain.length, 72, true⟩
  plain ++ (if plain.isEmpty then [] else ['-']) ++ (state.run text 128 codes).written

end Runbook.Text.Punycode
