/-!
The lines of a text. Every script's line breaks end a line, and so do the separators of files, groups
and records.
-/

namespace Runbook.Text

def isLineBreak (c : Char) : Bool :=
  (0x0A ≤ c.toNat && c.toNat ≤ 0x0D) || (0x1C ≤ c.toNat && c.toNat ≤ 0x1E) || c.toNat == 0x85
    || c.toNat == 0x2028 || c.toNat == 0x2029

/-- The lines of a text after the part of its first line that is given in reverse. A carriage return
with a line feed is one break, and nothing follows a break at the end. -/
def linesFrom (line : List Char) : List Char → List (List Char)
  | [] => if line.isEmpty then [] else [line.reverse]
  | '\r' :: '\n' :: rest => line.reverse :: linesFrom [] rest
  | c :: rest =>
    if isLineBreak c then line.reverse :: linesFrom [] rest else linesFrom (c :: line) rest

def lines (cs : List Char) : List (List Char) :=
  linesFrom [] cs

theorem linesFrom_of_unbroken (line cs : List Char) (h : ∀ c ∈ cs, isLineBreak c = false) :
    linesFrom line cs = if line.isEmpty && cs.isEmpty then [] else [line.reverse ++ cs] := by
  induction cs generalizing line with
  | nil => cases line <;> simp [linesFrom]
  | cons c rest ih =>
    have hc : isLineBreak c = false := h c (.head _)
    have hrest := ih (c :: line) fun d hd => h d (.tail _ hd)
    rw [linesFrom]
    · simp [hc, hrest]
    · rintro _ rfl rfl
      exact absurd hc (by decide)

end Runbook.Text
