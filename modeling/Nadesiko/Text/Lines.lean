import Nadesiko.Text.Utf16

/-!
# The lines of a text

A text is cut at its line feeds, so it has one line more than it has line feeds. One carriage return
at the end of a line is not part of the line's content.
-/

namespace Nadesiko.Text

/-- The pieces of a text between its line feeds. -/
def lines : List Char → List (List Char)
  | [] => [[]]
  | '\n' :: rest => [] :: lines rest
  | c :: rest => (lines rest).modifyHead (c :: ·)

/-- A line without one carriage return at its end. -/
def lineContent (line : List Char) : List Char :=
  if line.getLast? = some '\r' then line.dropLast else line

/-- The length of each line in UTF-16 code units. -/
def lineLengths (text : List Char) : List Nat := (lines text).map (units ∘ lineContent)

@[simp] theorem length_lines (text : List Char) :
    (lines text).length = text.count '\n' + 1 := by
  fun_induction lines text with
  | case1 => rfl
  | case2 rest ih => simp [ih]
  | case3 c rest hc ih =>
    have : c ≠ '\n' := fun h => hc h
    simp [ih, this]

@[simp] theorem length_lineLengths (text : List Char) :
    (lineLengths text).length = text.count '\n' + 1 := by simp [lineLengths]

end Nadesiko.Text
