/-!
# Numbers that do not fit

Positions, lengths and bit sets travel as 32-bit words. Lines and columns are counted here without
that limit. What is said about the columns of a text is therefore about words only if the text has
less than `wordLimit` units, because no line, column or length then reaches the limit. Of a longer
text it is said about the plain numbers.

The limit is kept where numbers come in from elsewhere: differences that are added up and bits that
are shifted may leave the range of a word however short the text is. Both stop the computation they
occur in.
-/

namespace Nadesiko

/-- The operation whose result does not fit into a word. -/
inductive Overflow where
  | addition
  | shift
deriving DecidableEq

namespace Overflow

/-- The message that reports an overflow. -/
def message : Overflow → String
  | addition => "attempt to add with overflow"
  | shift => "attempt to shift left with overflow"

end Overflow

/-- The number of bits of a word. -/
def wordBits : Nat := 32

/-- The first number that does not fit into a word. -/
def wordLimit : Nat := 1 <<< wordBits

/-- The sum of two words, if it is a word. -/
def addWords (a b : Nat) : Except Overflow Nat :=
  if a + b < wordLimit then .ok (a + b) else .error .addition

theorem addWords_eq_ok {a b n : Nat} :
    addWords a b = .ok n ↔ n = a + b ∧ a + b < wordLimit := by
  unfold addWords
  split <;> simp_all [eq_comm]

end Nadesiko
