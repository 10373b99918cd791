/-!
Bytes in the alphabet of 64 characters: three bytes give four characters, and what is missing from
the last group is marked.
-/

namespace Runbook.Text.Base64

def alphabet : List Char :=
  "ABCDEFGHIJKLMNOPQRSTUVWXYZabcdefghijklmnopqrstuvwxyz0123456789+/".toList

def digit (n : Nat) : Char :=
  alphabet.getD (n % 64) '='

def encode : List UInt8 → List Char
  | [] => []
  | [a] =>
    let n := a.toNat * 16
    [digit (n / 64), digit n, '=', '=']
  | [a, b] =>
    let n := (a.toNat * 256 + b.toNat) * 4
    [digit (n / 4096), digit (n / 64), digit n, '=']
  | a :: b :: c :: rest =>
    let n := (a.toNat * 256 + b.toNat) * 256 + c.toNat
    digit (n / 262144) :: digit (n / 4096) :: digit (n / 64) :: digit n :: encode rest

/-- The characters in lines of the given width; each character says whether its line ends after it. -/
def breakLines (width : Nat) (room : Nat) : List Char → List Char
  | [] => if room = width then [] else ['\n']
  | c :: rest => match room with
    | 0 => c :: breakLines width width rest
    | 1 => c :: '\n' :: breakLines width width rest
    | room + 1 => c :: breakLines width room rest

/-- The encoded bytes in lines of 76 characters, each of them ended. -/
def lines (bytes : List UInt8) : String :=
  String.ofList (breakLines 76 76 (encode bytes))

theorem length_encode (bytes : List UInt8) :
    (encode bytes).length = 4 * ((bytes.length + 2) / 3) := by
  fun_induction encode bytes with
  | case1 => rfl
  | case2 => simp
  | case3 => simp
  | case4 a b c rest n ih =>
    simp only [List.length_cons, ih]
    omega

end Runbook.Text.Base64
