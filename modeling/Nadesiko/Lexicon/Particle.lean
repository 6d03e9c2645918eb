/-!
# Particles

A particle follows a word, a number or a string and says what part it plays in the sentence. Several
particles begin with another one, so the table is ordered by length and the first entry that fits is
the longest.
-/

namespace Nadesiko.Lexicon

/-- All particles, longer ones first. -/
def particles : List String := [
  "について", "くらい", "なのか", "までを", "までの", "による", "とは", "から", "まで", "だけ", "より",
  "ほど", "など", "では", "には", "は", "を", "に", "へ", "で", "と", "が", "の", "や", "も"]

/-- The longest particle that a text begins with. -/
def particle? (rest : List Char) : Option String :=
  particles.find? (·.toList.isPrefixOf rest)

/-- A particle found in front of a text is one of the table, and the text begins with it. -/
theorem particle?_eq_some {rest : List Char} {p : String} (h : particle? rest = some p) :
    p ∈ particles ∧ p.toList <+: rest := by
  have hp := List.find?_some h
  exact ⟨List.mem_of_find?_eq_some h, List.isPrefixOf_iff_prefix.1 hp⟩

/-- No entry of the table is longer than one before it. -/
theorem particles_pairwise_length :
    particles.Pairwise (fun p q => q.toList.length ≤ p.toList.length) := by decide

end Nadesiko.Lexicon
