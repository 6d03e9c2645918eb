import Nadesiko.Text.Alphanumeric

/-!
# Characters of the language

Words are made of letters, numbers and underscores. Digits may be narrow or wide. Hiragana matters
because a word's ending and the particle after it are both written in it.
-/

namespace Nadesiko.Lexicon

open Text

/-- Narrow and wide decimal digits. -/
def isDigit (c : Char) : Bool := ('0' ≤ c && c ≤ '9') || ('０' ≤ c && c ≤ '９')

/-- The characters of the hiragana block. -/
def isHiragana (c : Char) : Bool := 'ぁ' ≤ c && c ≤ 'ゟ'

/-- The characters that a word is made of. -/
def isWordChar (c : Char) : Bool := isAlphanumeric c || c == '_'

/-- The characters that a word starts with: a digit starts a number instead. -/
def startsWord (c : Char) : Bool := isWordChar c && !isDigit c

end Nadesiko.Lexicon
