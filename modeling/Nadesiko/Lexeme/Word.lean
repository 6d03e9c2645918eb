import Nadesiko.Lexicon.Particle
import Nadesiko.Lexicon.Keyword
import Nadesiko.Lexicon.Builtin

/-!
# Where a word ends

Words are written without spaces, so a word's end has to be found inside a run of word characters.
Going through the run from left to right, the word ends at the first place where

* a particle follows a character that is not hiragana, or follows a known word: this keeps the す of
  足す in the word and takes the を of 名前を as a particle;
* a keyword such as ならば follows a character that is not hiragana;
* a keyword ending in hiragana stands before a character that is not hiragana, as もし does before a
  name.

Otherwise it ends with the run. Only the first `knownLength` characters are compared with the known
words, which keeps the search linear in the length of the run.
-/

namespace Nadesiko.Lexeme

open Lexicon

/-- How many characters of a word are compared with the keywords and built-in names. -/
def knownLength : Nat := 12

/-- Whether the characters read so far are few enough to be compared. -/
def comparable (read : List Char) : Bool := (read.drop knownLength).isEmpty

theorem comparable_iff {read : List Char} : comparable read ↔ read.length ≤ knownLength := by
  simp [comparable]

/-- Whether the characters read so far, in reverse order, spell a keyword. -/
def spellsKeyword (read : List Char) : Bool :=
  comparable read && (Keyword.ofSpelling? (String.ofList read.reverse)).isSome

/-- Whether the characters read so far, in reverse order, spell a built-in name. -/
def spellsBuiltin (read : List Char) : Bool :=
  comparable read && (Builtin.ofWord? read.reverse).isSome

/-- Whether a word may be followed by a particle: after a character that is not hiragana, and after
a known word. -/
def allowsParticle (last : Char) (read : List Char) : Bool :=
  !isHiragana last || spellsKeyword read || spellsBuiltin read

/-- Whether a word ends before `next` without a particle. -/
def endsBefore (last : Char) (read : List Char) (next : Char) (rest : List Char) : Bool :=
  (!isHiragana last && Keyword.suffixAhead (next :: rest))
    || (isHiragana last && spellsKeyword read && !isHiragana next)

/-- The number of further characters of a word whose characters `last :: before` have been read in
reverse order, and the particle after the word. -/
def wordEnd (last : Char) (before : List Char) : List Char → Nat × Option String
  | [] => (0, none)
  | next :: rest =>
    if !isWordChar next then (0, none)
    else
      match if allowsParticle last (last :: before) then particle? (next :: rest) else none with
      | some particle => (0, some particle)
      | none =>
        if endsBefore last (last :: before) next rest then (0, none)
        else
          let (more, particle) := wordEnd next (last :: before) rest
          (more + 1, particle)

end Nadesiko.Lexeme
