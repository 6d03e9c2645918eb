import Nadesiko.Highlight.Buffer
import Nadesiko.Hover

/-!
# How answers travel

Positions, spans, legends, hovers and highlight buffers as the JSON values that an editor expects.
-/

namespace Nadesiko

/-- A position in a document. -/
def Position.toJson (p : Position) : Json :=
  .object [("line", .nat p.line), ("character", .nat p.column)]

/-- A stretch of a document. -/
def Span.toJson (span : Span) : Json :=
  .object [("start", span.start.toJson), ("end", span.stop.toJson)]

/-- The list with the one stretch to highlight, marked as an occurrence of text. -/
def Span.toHighlightsJson (span : Span) : Json :=
  .array [.object [("range", span.toJson), ("kind", .nat 1)]]

/-- A hover text with the stretch it is about. -/
def Hover.toJson (hover : Hover) : Json :=
  .object [
    ("contents", .object [("kind", .string "markdown"), ("value", .string hover.text)]),
    ("range", hover.span.toJson)]

/-- The names of a legend. -/
def Legend.toJson (legend : Legend) : Json :=
  .object [
    ("tokenTypes", .strings (legend.categories.map Category.name)),
    ("tokenModifiers", .strings (legend.modifiers.map Modifier.name))]

/-- The five numbers of a relative entry. -/
def Delta.numbers (delta : Delta) : List Nat :=
  [delta.lines, delta.column, delta.length, delta.category, delta.modifiers]

/-- A highlight buffer, with the numbers of all its entries in one list. -/
def Buffer.toJson (buffer : Buffer) : Json :=
  let data := ("data", Json.array ((buffer.data.flatMap Delta.numbers).map .nat))
  match buffer.resultId with
  | none => .object [data]
  | some id => .object [data, ("resultId", .string id)]

end Nadesiko
