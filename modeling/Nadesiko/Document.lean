import Nadesiko.Highlight.Buffer
import Nadesiko.Hover
import Nadesiko.Text.Lines
import Nadesiko.Token.Stream

/-!
# Documents

A document keeps the tokens of its text. Its highlight is computed when it is first asked for after
an update, and the same buffer is given until the next one. An update does not throw the buffer away.
It marks it as stale, so a document may hold the highlight of a text that it no longer has, and the
mark has to be looked at before the buffer is given again. Updates are counted, and the count names
the buffer.
-/

namespace Nadesiko

/-- A text that a client has open. -/
structure Document where
  /-- The client's version of the text. -/
  version : Option Int
  /-- The tokens of the text. -/
  tokens : List Token
  /-- The lengths of its lines. -/
  lineLengths : List Nat
  /-- The highlight that was computed last, of this text or of an earlier one. -/
  buffer : Option Buffer
  /-- Whether no update has come since that highlight was computed. -/
  valid : Bool
  /-- The number of updates so far. -/
  revision : Nat

namespace Document

/-- A document without a text. -/
def empty : Document := ⟨none, [], [], none, false, 0⟩

/-- Replaces the whole text. The highlight of the old one stays, but it is valid no more. -/
def update (document : Document) (text : String) (version : Option Int) : Logged Document :=
  let tokens := tokenize text.toList
  let revision := document.revision + 1
  ⟨[.tokenized revision tokens.length],
    .ok { document with
      version, tokens, lineLengths := Text.lineLengths text.toList, valid := false, revision }⟩

/-- The highlight that can be given as it is: the last one, while it is valid. -/
def cached? (document : Document) : Option Buffer :=
  if document.valid then document.buffer else none

theorem cached?_eq_some_iff {document : Document} {buffer : Buffer} :
    document.cached? = some buffer ↔ document.valid = true ∧ document.buffer = some buffer := by
  simp [cached?]

/-- Whether the highlight can be given as it is. -/
def hasValidHighlight (document : Document) : Bool := document.valid && document.buffer.isSome

/-- The highlight, and the document that remembers it. -/
def highlight (document : Document) (legend : Legend) : Logged (Buffer × Document) :=
  match document.cached? with
  | some buffer => return (buffer, document)
  | none => do
    let revision := document.revision
    let buffer ←
      Buffer.build document.tokens document.lineLengths legend (some (toString revision))
    Logged.record [.highlighted buffer.data.length revision]
    return (buffer, { document with buffer := some buffer, valid := true })

/-- The token at a position. -/
def tokenAt? (document : Document) (p : Position) : Option Token := Token.at? document.tokens p

/-- The stretch to highlight for a position. -/
def spanAt? (document : Document) (p : Position) : Option Span := Token.spanAt? document.tokens p

/-- What is shown at a position. -/
def hoverAt? (document : Document) (p : Position) : Option Hover := Hover.at? document.tokens p

end Document

end Nadesiko
