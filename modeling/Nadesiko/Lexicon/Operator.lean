/-!
# Operators and brackets

Operators are written with narrow or wide signs. Where one sign begins another, the longer one comes
first in the list, so the first operator that fits is the longest.
-/

namespace Nadesiko.Lexicon

/-- The operators and brackets of the language, named for the signs they are written with. -/
inductive Operator where
  | doubleEqual
  | exclamationEqual
  | lessGreater
  | lessEqual
  | greaterEqual
  | doubleAmpersand
  | doubleBar
  | plus
  | minus
  | asterisk
  | slash
  | percent
  | caret
  | equal
  | less
  | greater
  | ampersand
  | exclamation
  | leftParen
  | rightParen
  | leftBracket
  | rightBracket
  | leftBrace
  | rightBrace
  | comma
  | colon
  | widePlus
  | wideMinus
  | times
  | division
  | wideEqual
  | unequal
  | wideLess
  | wideGreater
  | lessOverEqual
  | greaterOverEqual
  | wideLeftParen
  | wideRightParen
deriving DecidableEq

namespace Operator

/-- Every operator, in the order in which they are tried. -/
def all : List Operator := [
  doubleEqual, exclamationEqual, lessGreater, lessEqual, greaterEqual, doubleAmpersand, doubleBar,
  plus, minus, asterisk, slash, percent, caret, equal, less, greater, ampersand, exclamation,
  leftParen, rightParen, leftBracket, rightBracket, leftBrace, rightBrace, comma, colon,
  widePlus, wideMinus, times, division, wideEqual, unequal, wideLess, wideGreater,
  lessOverEqual, greaterOverEqual, wideLeftParen, wideRightParen]

theorem mem_all (op : Operator) : op ∈ all := by
  cases op <;> decide

/-- How an operator is written. -/
def spelling : Operator → String
  | doubleEqual => "=="
  | exclamationEqual => "!="
  | lessGreater => "<>"
  | lessEqual => "<="
  | greaterEqual => ">="
  | doubleAmpersand => "&&"
  | doubleBar => "||"
  | plus => "+"
  | minus => "-"
  | asterisk => "*"
  | slash => "/"
  | percent => "%"
  | caret => "^"
  | equal => "="
  | less => "<"
  | greater => ">"
  | ampersand => "&"
  | exclamation => "!"
  | leftParen => "("
  | rightParen => ")"
  | leftBracket => "["
  | rightBracket => "]"
  | leftBrace => "\x7b"
  | rightBrace => "\x7d"
  | comma => ","
  | colon => ":"
  | widePlus => "＋"
  | wideMinus => "－"
  | times => "×"
  | division => "÷"
  | wideEqual => "＝"
  | unequal => "≠"
  | wideLess => "＜"
  | wideGreater => "＞"
  | lessOverEqual => "≦"
  | greaterOverEqual => "≧"
  | wideLeftParen => "（"
  | wideRightParen => "）"

/-- Every operator is written with at least one sign. -/
theorem spelling_length_pos (op : Operator) : 0 < op.spelling.length := by
  cases op <;> decide

/-- The longest operator that a text begins with. -/
def ahead? (rest : List Char) : Option Operator :=
  all.find? (·.spelling.toList.isPrefixOf rest)

/-- An operator found in front of a text is written there. -/
theorem spelling_of_ahead? {rest : List Char} {op : Operator} (h : ahead? rest = some op) :
    op.spelling.toList <+: rest := by
  have hop := List.find?_some h
  exact List.isPrefixOf_iff_prefix.1 hop

/-- Brackets that open a parameter list. -/
def opensParameters (op : Operator) : Bool := op == leftParen || op == wideLeftParen

/-- Brackets that close a parameter list. -/
def closesParameters (op : Operator) : Bool := op == rightParen || op == wideRightParen

end Operator

end Nadesiko.Lexicon
