import Nadesiko.Overflow
import Nadesiko.Position

/-!
# Relative entries

A highlight entry travels relative to the one before it: the number of lines between them, and the
distance of their columns if they share a line, or else the column itself. The first entry is
relative to the start of the text.

Entries are meant to come in the order of the text. Encoding an entry that stands before its
predecessor writes zero for each distance that would be negative, and `misplaced` tells such entries
apart. Decoding adds the distances up again and fails when a sum does not fit into a word.
-/

namespace Nadesiko

/-- A highlighted stretch of one line. -/
structure Entry where
  /-- Where the stretch starts. -/
  start : Position
  /-- Its length. -/
  length : Nat
  /-- The index of its category in a legend. -/
  category : Nat
  /-- The bits of its modifiers in a legend. -/
  modifiers : Nat
deriving DecidableEq

/-- An entry relative to the one before it. -/
structure Delta where
  /-- The number of lines from the previous entry. -/
  lines : Nat
  /-- The column, counted from the previous entry's column if that is on the same line. -/
  column : Nat
  /-- The length of the stretch. -/
  length : Nat
  /-- The index of its category in a legend. -/
  category : Nat
  /-- The bits of its modifiers in a legend. -/
  modifiers : Nat
deriving DecidableEq

namespace Entry

/-- An entry relative to a previous position. -/
def relativeTo (entry : Entry) (previous : Position) : Delta :=
  let lines := entry.start.line - previous.line
  let column := if lines = 0 then entry.start.column - previous.column else entry.start.column
  ⟨lines, column, entry.length, entry.category, entry.modifiers⟩

/-- Entries relative to each other, the first one relative to a previous position. -/
def encodeFrom (previous : Position) : List Entry → List Delta
  | [] => []
  | entry :: later => entry.relativeTo previous :: encodeFrom entry.start later

/-- Entries relative to each other. -/
def encode (entries : List Entry) : List Delta := encodeFrom .zero entries

/-- The starts of the entries that stand before their predecessor, each with the predecessor's. -/
def misplaced (previous : Position) : List Entry → List (Position × Position)
  | [] => []
  | entry :: later =>
    if entry.start < previous then (entry.start, previous) :: misplaced entry.start later
    else misplaced entry.start later

/-- The position that the entry after a list of entries is relative to. -/
def lastStart (previous : Position) (entries : List Entry) : Position :=
  (entries.getLast?.map Entry.start).getD previous

end Entry

namespace Delta

/-- The position that lies a relative entry's distance behind a previous one. -/
def startFrom (delta : Delta) (previous : Position) : Except Overflow Position := do
  let line ← addWords previous.line delta.lines
  let column ← if delta.lines = 0 then addWords previous.column delta.column else .ok delta.column
  return ⟨line, column⟩

/-- The entries that relative ones stand for, the first one relative to a previous position. -/
def decodeFrom (previous : Position) : List Delta → Except Overflow (List Entry)
  | [] => .ok []
  | delta :: later => do
    let start ← delta.startFrom previous
    let entries ← decodeFrom start later
    return ⟨start, delta.length, delta.category, delta.modifiers⟩ :: entries

/-- The entries that relative ones stand for. -/
def decode (deltas : List Delta) : Except Overflow (List Entry) := decodeFrom .zero deltas

end Delta

end Nadesiko
