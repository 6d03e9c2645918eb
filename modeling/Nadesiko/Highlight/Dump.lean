import Nadesiko.Highlight.Delta
import Nadesiko.Highlight.Legend

/-!
# A readable form of highlight entries

A count is followed by one line for each entry: its position, its length, the name of its category,
or a question mark if the legend has none at that index, and its modifiers as a binary number of at
least five digits.
-/

namespace Nadesiko

/-- A number in binary, with zeros in front up to a least number of digits. -/
def binary (width n : Nat) : String :=
  let digits := Nat.toDigits 2 n
  String.ofList (List.replicate (width - digits.length) '0' ++ digits)

/-- The line that shows an entry. -/
def Entry.dumpLine (legend : Legend) (entry : Entry) : String :=
  let category := (legend.categoryName? entry.category).getD "?"
  let bits := binary 5 entry.modifiers
  s!"L{entry.start.line}:{entry.start.column} len={entry.length} type={category} mods=0b{bits}"

/-- The lines that show a list of entries. -/
def Entry.dump (legend : Legend) (entries : List Entry) : String :=
  String.intercalate "\n"
    (s!"[semantic] {entries.length} tokens" :: entries.map (Entry.dumpLine legend))

/-- The lines that show the entries behind relative ones. -/
def Delta.dump (legend : Legend) (deltas : List Delta) : Except Overflow String := do
  let entries ← Delta.decode deltas
  return Entry.dump legend entries

end Nadesiko
