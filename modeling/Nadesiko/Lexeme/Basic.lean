import Nadesiko.Lexeme.Reading

/-!
# Lexemes

A text is cut into lexemes that follow each other without loss: words, strings, signs and the gaps
between them. Each lexeme keeps its characters and its positions. What it means in the program is
decided later, because that depends on the lexemes around it.
-/

namespace Nadesiko

open Text

/-- A stretch of text with its positions. -/
structure Lexeme where
  /-- What the stretch is. -/
  shape : Lexeme.Shape
  /-- Its characters without the particle. -/
  stem : List Char
  /-- The particle behind the stem. -/
  particle : Option String
  /-- Where the stem starts. -/
  start : Position
  /-- Where the stem stops and the particle starts. -/
  stemStop : Position
  /-- Where the particle stops. -/
  stop : Position

namespace Lexeme

/-- The characters of the particle. -/
def particleChars (lexeme : Lexeme) : List Char :=
  match lexeme.particle with
  | none => []
  | some particle => particle.toList

/-- All characters of the lexeme. -/
def text (lexeme : Lexeme) : List Char := lexeme.stem ++ lexeme.particleChars

/-- The cursor behind what is read at a cursor. -/
def after (cur : Cursor) (reading : Reading) : Cursor :=
  (cur.advanceBy (reading.more + 1)).advanceBy reading.particleLength

/-- Something is read wherever something is left to read. -/
theorem length_rest_after_lt {cur : Cursor} (h : cur.rest ≠ []) (reading : Reading) :
    (after cur reading).rest.length < cur.rest.length := by
  have hpos := List.length_pos_iff.2 h
  simp only [after, Cursor.rest_advanceBy, List.length_drop]
  omega

/-- The lexeme that is read at a cursor. -/
def ofReading (cur : Cursor) (reading : Reading) : Lexeme where
  shape := reading.shape
  stem := cur.rest.take (reading.more + 1)
  particle := reading.particle
  start := cur.position
  stemStop := (cur.advanceBy (reading.more + 1)).position
  stop := (after cur reading).position

/-- All lexemes from a cursor on. -/
def scan (cur : Cursor) : List Lexeme :=
  match h : cur.rest with
  | [] => []
  | c :: rest =>
    let reading := read cur.atLineStart c rest
    have := length_rest_after_lt (List.ne_nil_of_mem (h ▸ List.mem_cons_self)) reading
    ofReading cur reading :: scan (after cur reading)
termination_by cur.rest.length

theorem scan_of_rest_eq_nil {cur : Cursor} (h : cur.rest = []) : scan cur = [] := by
  rw [scan]
  split
  · rfl
  · next hc => exact absurd (hc.symm.trans h) (List.cons_ne_nil _ _)

theorem scan_of_rest_eq_cons {cur : Cursor} {c : Char} {rest : List Char}
    (h : cur.rest = c :: rest) :
    scan cur = ofReading cur (read cur.atLineStart c rest)
      :: scan (after cur (read cur.atLineStart c rest)) := by
  rw [scan]
  split
  · next hn => exact absurd (h.symm.trans hn) (List.cons_ne_nil _ _)
  · next c' rest' hc =>
    obtain ⟨rfl, rfl⟩ := List.cons.inj (hc.symm.trans h)
    rfl

/-- The lexemes of a text. -/
def ofText (text : List Char) : List Lexeme := scan (Cursor.start text)

end Lexeme

end Nadesiko
