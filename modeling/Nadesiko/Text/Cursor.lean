import Nadesiko.Position
import Nadesiko.Text.Utf16

/-!
# Reading a text from left to right

A cursor is what is left to read, together with the position it has reached and whether only blanks
stand before it on its line. A line ends with a line feed. A carriage return directly before a line
feed belongs to the line's end, so it takes no column; everywhere else it is an ordinary blank.

All movement is repeated `advance`, so a fact about one step carries over to every way of moving.
-/

namespace Nadesiko.Text

/-- The characters that separate words without ending a line: space, tab, carriage return and the
ideographic space. -/
def isBlank (c : Char) : Bool := c == ' ' || c == '\t' || c == '\r' || c == '\u3000'

/-- The number of characters up to and including the first occurrence of `close`, or all of them if
there is none. -/
def lengthThrough (close : List Char) : List Char → Nat
  | [] => 0
  | c :: rest => if close.isPrefixOf (c :: rest) then close.length else lengthThrough close rest + 1

/-- A place in a text that is being read. -/
structure Cursor where
  /-- What is left to read. -/
  rest : List Char
  /-- The position reached. -/
  position : Position
  /-- Whether only blanks stand before the cursor on its line. -/
  atLineStart : Bool

namespace Cursor

/-- The start of a text. -/
def start (text : List Char) : Cursor := ⟨text, .zero, true⟩

/-- One character further; at the end of the text the cursor stays. -/
def advance (cur : Cursor) : Cursor :=
  match cur.rest with
  | [] => cur
  | '\n' :: rest => ⟨rest, ⟨cur.position.line + 1, 0⟩, true⟩
  | '\r' :: '\n' :: rest => ⟨'\n' :: rest, cur.position, cur.atLineStart⟩
  | c :: rest =>
    ⟨rest, ⟨cur.position.line, cur.position.column + charUnits c⟩, cur.atLineStart && isBlank c⟩

/-- `n` characters further, or to the end of a shorter text. -/
def advanceBy (cur : Cursor) : Nat → Cursor
  | 0 => cur
  | n + 1 => cur.advance.advanceBy n

/-- Past the characters in front that satisfy `p`. -/
def advanceWhile (cur : Cursor) (p : Char → Bool) : Cursor :=
  cur.advanceBy (cur.rest.takeWhile p).length

/-- Past the first occurrence of `close`, or to the end of the text if there is none. -/
def advanceThrough (cur : Cursor) (close : List Char) : Cursor :=
  cur.advanceBy (lengthThrough close cur.rest)

@[simp] theorem rest_start (text : List Char) : (start text).rest = text := rfl

@[simp] theorem rest_advance (cur : Cursor) : cur.advance.rest = cur.rest.tail := by
  unfold advance; split <;> simp_all

@[simp] theorem rest_advanceBy (cur : Cursor) (n : Nat) :
    (cur.advanceBy n).rest = cur.rest.drop n := by
  induction n generalizing cur with
  | zero => rfl
  | succ n ih => simp [advanceBy, ih]

theorem advanceBy_add (cur : Cursor) (m n : Nat) :
    cur.advanceBy (m + n) = (cur.advanceBy m).advanceBy n := by
  induction m generalizing cur with
  | zero => simp [advanceBy]
  | succ m ih => rw [Nat.add_right_comm]; exact ih cur.advance

end Cursor

end Nadesiko.Text
