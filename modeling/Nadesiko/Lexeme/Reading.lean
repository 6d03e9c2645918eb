import Nadesiko.Text.Cursor
import Nadesiko.Lexicon.Operator
import Nadesiko.Lexeme.Word

/-!
# What stands in front of a reader

Reading looks at the first character, at what follows it and at whether only blanks precede it on
its line. It says what starts there, how many further characters belong to it and which particle
stands behind it. The first character always belongs to what is read, so reading never gets stuck.

Strings and range comments run through their first closing mark, or to the end of the text if there
is none. Comments up to the end of the line and pragmas leave the line feed to be read next.
-/

namespace Nadesiko.Lexeme

open Text Lexicon

/-- What a stretch of text is, as far as its own characters tell. -/
inductive Shape where
  | lineBreak
  | blank
  | word
  | comma
  | sentenceEnd
  | lineComment
  | rangeComment
  | docComment
  | pragma
  | string
  | template
  | number
  /-- The mark that opens a function definition. -/
  | definition
  | operator (op : Operator)
  | unknown
deriving DecidableEq

/-- Gaps stand between tokens and are no tokens themselves. -/
def Shape.isGap (shape : Shape) : Bool := shape == .lineBreak || shape == .blank

/-- How far one stretch of text reaches. -/
structure Reading where
  /-- What the stretch is. -/
  shape : Shape
  /-- How many characters it has after the first one, its particle not counted. -/
  more : Nat
  /-- The particle behind it. -/
  particle : Option String

/-- The number of characters of the particle. -/
def Reading.particleLength (reading : Reading) : Nat :=
  match reading.particle with
  | none => 0
  | some particle => particle.length

/-- A stretch that takes no particle. -/
def Reading.bare (shape : Shape) (more : Nat) : Reading := ⟨shape, more, none⟩

/-- A stretch with `more` characters of `rest`, and the particle that stands behind them. -/
def Reading.beforeParticle (shape : Shape) (more : Nat) (rest : List Char) : Reading :=
  ⟨shape, more, particle? (rest.drop more)⟩

/-- The number of characters before the next line feed. -/
def lengthToLineEnd (rest : List Char) : Nat := (rest.takeWhile (· != '\n')).length

/-- Whether a comment up to the end of the line starts here. -/
def opensLineComment (c : Char) (rest : List Char) : Bool :=
  c == '#' || c == '＃' || c == '※' || (c == '/' && rest.head? == some '/')

/-- Whether a comment with a closing mark starts here. -/
def opensRangeComment (c : Char) (rest : List Char) : Bool := c == '/' && rest.head? == some '*'

/-- The marks that start a pragma at the start of a line. -/
def opensPragma (c : Char) : Bool := c == '!' || c == '！'

/-- The closing mark of a range comment. -/
def commentClose : List Char := ['*', '/']

/-- A range comment whose opening mark is followed by `body`. A second asterisk makes it
documentation, unless that asterisk already belongs to the closing mark. -/
def readRangeComment (body : List Char) : Reading :=
  let isDoc := body.head? == some '*' && !commentClose.isPrefixOf body
  .bare (if isDoc then .docComment else .rangeComment) (lengthThrough commentClose body + 1)

/-- The kind of string that an opening mark starts, with its closing mark. -/
def stringMark? (c : Char) : Option (Shape × Char) :=
  if c == '「' then some (.string, '」')
  else if c == '『' then some (.string, '』')
  else if c == '"' then some (.template, '"')
  else if c == '“' then some (.template, '”')
  else none

/-- The marks between the whole and the fractional digits of a number. -/
def isPoint (c : Char) : Bool := c == '.' || c == '．'

/-- The length of a fraction: a point with digits behind it. -/
def fractionLength : List Char → Nat
  | point :: rest =>
    let digits := (rest.takeWhile isDigit).length
    if isPoint point && 0 < digits then digits + 1 else 0
  | [] => 0

/-- How many of the characters after a digit belong to the same number. -/
def numberLength (rest : List Char) : Nat :=
  let digits := (rest.takeWhile isDigit).length
  digits + fractionLength (rest.drop digits)

/-- What starts with the character `c` before `rest`. -/
def read (atLineStart : Bool) (c : Char) (rest : List Char) : Reading :=
  if c == '\n' then .bare .lineBreak 0
  else if isBlank c then .bare .blank 0
  else if startsWord c then ⟨.word, (wordEnd c [] rest).1, (wordEnd c [] rest).2⟩
  else if c == '、' then .bare .comma 0
  else if c == '。' then .bare .sentenceEnd 0
  else if opensLineComment c rest then .bare .lineComment (lengthToLineEnd rest)
  else if opensRangeComment c rest then readRangeComment rest.tail
  else if opensPragma c && atLineStart then .bare .pragma (lengthToLineEnd rest)
  else if let some (shape, close) := stringMark? c then
    .beforeParticle shape (lengthThrough [close] rest) rest
  else if isDigit c then .beforeParticle .number (numberLength rest) rest
  else if c == '●' then .bare .definition 0
  else
    match Operator.ahead? (c :: rest) with
    | some op => .bare (.operator op) (op.spelling.length - 1)
    | none => .bare .unknown 0

end Nadesiko.Lexeme
