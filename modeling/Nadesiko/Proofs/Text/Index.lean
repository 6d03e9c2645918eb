import Mathlib
import Nadesiko.Overflow
import Nadesiko.Proofs.Text.Marks

/-!
# A cursor is what its index makes it

A cursor keeps its position and its flag as it goes, and it may go in several ways: one step, many
steps, as far as a property holds, or through a closing mark. It does not matter in which of these
ways it went. All it knows can be read off the text from the number of characters that it has
passed, its index.

The text has to be looked at as a whole, since a carriage return takes a column or not depending on
what stands behind it, which the cursor may not have passed yet.
-/

namespace Nadesiko.Text

namespace Cursor

/-- The number of characters of a text that a cursor has passed. -/
def index (text : List Char) (cur : Cursor) : Nat := text.length - cur.rest.length

/-- A cursor that has gone through a text in any of the ways there are. -/
inductive Reachable (text : List Char) : Cursor → Prop where
  | start : Reachable text (start text)
  | advance {cur : Cursor} : Reachable text cur → Reachable text cur.advance
  | advanceBy {cur : Cursor} (n : Nat) : Reachable text cur → Reachable text (cur.advanceBy n)
  | advanceWhile {cur : Cursor} (p : Char → Bool) :
      Reachable text cur → Reachable text (cur.advanceWhile p)
  | advanceThrough {cur : Cursor} (close : List Char) :
      Reachable text cur → Reachable text (cur.advanceThrough close)

/-- What a cursor is at an index of a text. -/
structure IsAt (text : List Char) (i : Nat) (cur : Cursor) : Prop where
  /-- The index is one of the text. -/
  le_length : i ≤ text.length
  /-- What is left to read is the text from there on. -/
  rest_eq : cur.rest = text.drop i
  /-- The line is the number of line feeds that were passed. -/
  line_eq : cur.position.line = (text.take i).count '\n'
  /-- The column is the length of what was passed behind the last of them. A carriage return does
  not count if a line feed is behind it in the text. -/
  column_eq : cur.position.column
    = units (withoutLineEnds (text.drop i) (lastLine (text.take i)))
  /-- The flag says whether only blanks were passed behind the last line feed. -/
  atLineStart_iff : cur.atLineStart = true ↔ ∀ c ∈ lastLine (text.take i), isBlank c = true

theorem isAt_start (text : List Char) : (start text).IsAt text 0 :=
  ⟨Nat.zero_le _, rfl, rfl, rfl, iff_of_true rfl (by simp [lastLine])⟩

theorem IsAt.index_eq {text : List Char} {i : Nat} {cur : Cursor} (h : cur.IsAt text i) :
    cur.index text = i := by
  have hle := h.le_length
  rw [index, h.rest_eq, List.length_drop]
  omega

/-- **However far a cursor goes, it is what it has to be there.** -/
theorem IsAt.advanceBy {text : List Char} {i : Nat} {cur : Cursor} (h : cur.IsAt text i) (n : Nat) :
    (cur.advanceBy n).IsAt text (min (i + n) text.length) := by
  have hplace : cur.position = place (text.take i) cur.rest := by
    rw [place, ← h.line_eq, h.rest_eq, ← h.column_eq]
  have hpassed : text.take i ++ cur.rest.take n = text.take (min (i + n) text.length) := by
    rw [h.rest_eq, ← List.take_add, List.take_eq_take_iff]
    omega
  have hleft : cur.rest.drop n = text.drop (min (i + n) text.length) := by
    rw [h.rest_eq, List.drop_drop, List.drop_eq_drop_iff]
    omega
  have hposition := position_advanceBy_place hplace n
  have hflag := atLineStart_advanceBy_iff h.atLineStart_iff n
  rw [hpassed, hleft] at hposition
  rw [hpassed] at hflag
  constructor
  case le_length => exact Nat.min_le_right _ _
  case rest_eq => rw [rest_advanceBy, hleft]
  case line_eq => rw [hposition, place]
  case column_eq => rw [hposition, place]
  case atLineStart_iff => exact hflag

/-- All ways of going are many steps. -/
theorem Reachable.exists_isAt {text : List Char} {cur : Cursor} (h : Reachable text cur) :
    ∃ i, cur.IsAt text i := by
  induction h with
  | start => exact ⟨0, isAt_start text⟩
  | advance _ ih =>
      obtain ⟨i, hat⟩ := ih
      exact ⟨_, hat.advanceBy 1⟩
  | advanceBy n _ ih =>
      obtain ⟨i, hat⟩ := ih
      exact ⟨_, hat.advanceBy n⟩
  | advanceWhile p _ ih =>
      obtain ⟨i, hat⟩ := ih
      exact ⟨_, hat.advanceBy _⟩
  | advanceThrough close _ ih =>
      obtain ⟨i, hat⟩ := ih
      exact ⟨_, hat.advanceBy _⟩

theorem Reachable.reach_le {text : List Char} {cur : Cursor} (h : Reachable text cur) :
    cur.reach ≤ units text := by
  induction h with
  | start => exact Nat.le_of_eq (Nat.zero_add _)
  | advance _ ih => exact Nat.le_trans (reach_advance_le _) ih
  | advanceBy n _ ih => exact Nat.le_trans (reach_advanceBy_le _ n) ih
  | advanceWhile p _ ih => exact Nat.le_trans (reach_advanceBy_le _ _) ih
  | advanceThrough close _ ih => exact Nat.le_trans (reach_advanceBy_le _ _) ih

end Cursor

/-! ## Through a closing mark -/

/-- The first index, from `i` on, at which a mark is written. -/
def IsFirstFrom (text mark : List Char) (i k : Nat) : Prop :=
  i ≤ k ∧ mark <+: text.drop k ∧ ∀ j, i ≤ j → mark <+: text.drop j → k ≤ j

theorem exists_append_of_prefix_drop {text mark : List Char} {i j : Nat} (hij : i ≤ j)
    (h : mark <+: text.drop j) :
    ∃ front back, text.drop i = front ++ mark ++ back ∧ front.length ≤ j - i := by
  obtain ⟨back, hback⟩ := h
  have hdrop : (text.drop i).drop (j - i) = text.drop j := by
    rw [List.drop_drop, Nat.add_sub_cancel' hij]
  refine ⟨(text.drop i).take (j - i), back, ?_, List.length_take_le ..⟩
  rw [List.append_assoc, hback, ← hdrop, List.take_append_drop]

/-- **A cursor stops behind the first closing mark from its index on, and at the end if there is
none.** -/
theorem Cursor.IsAt.advanceThrough {text close : List Char} {i : Nat} {cur : Cursor}
    (h : cur.IsAt text i) (hclose : close ≠ []) :
    (∃ k, IsFirstFrom text close i k ∧ (cur.advanceThrough close).IsAt text (k + close.length))
      ∨ (∀ j, i ≤ j → ¬ close <+: text.drop j)
        ∧ (cur.advanceThrough close).IsAt text text.length := by
  have hstop := h.advanceBy (lengthThrough close cur.rest)
  have hruns := runsThrough_lengthThrough hclose cur.rest
  have hle := h.le_length
  have hlength : cur.rest.length = text.length - i := by rw [h.rest_eq, List.length_drop]
  rcases hruns with ⟨content, hstretch, hfirst⟩ | ⟨hend, hnone⟩
  · refine Or.inl ⟨i + content.length, ⟨Nat.le_add_right _ _, ?_, ?_⟩, ?_⟩
    · have hsplit : cur.rest
          = content ++ (close ++ cur.rest.drop (lengthThrough close cur.rest)) := by
        rw [← List.append_assoc, ← hstretch, List.take_append_drop]
      rw [← List.drop_drop, ← h.rest_eq, hsplit, List.drop_left]
      exact List.prefix_append _ _
    · intro j hij hj
      obtain ⟨front, back, heq, hfront⟩ := exists_append_of_prefix_drop hij hj
      rw [List.take_append_drop, h.rest_eq] at hfirst
      have := hfirst front back heq
      omega
    · have hpassed := congrArg List.length hstretch
      rw [List.length_take, List.length_append] at hpassed
      have hindex : min (i + lengthThrough close cur.rest) text.length
          = i + content.length + close.length := by omega
      rw [hindex] at hstop
      exact hstop
  · have hall : cur.rest.length ≤ lengthThrough close cur.rest := List.drop_eq_nil_iff.mp hend
    refine Or.inr ⟨?_, ?_⟩
    · intro j hij hj
      obtain ⟨front, back, heq, _⟩ := exists_append_of_prefix_drop hij hj
      rw [List.take_of_length_le hall, h.rest_eq] at hnone
      exact hnone ⟨front, back, heq.symm⟩
    · have hindex : min (i + lengthThrough close cur.rest) text.length = text.length := by omega
      rw [hindex] at hstop
      exact hstop

/--
**A cursor is what its index makes it, in whatever ways it got there.**

Its line, its column and its flag are read off the characters before the index, and off the one
behind them if they end in a carriage return, and the numbers are words. When it goes through a
closing mark, it stops behind the first one from its index on; it goes to the end of the text
because there is none, and only then.
-/
theorem isAt_index_of_reachable (text : List Char) (hlen : units text < wordLimit) {cur : Cursor}
    (h : Cursor.Reachable text cur) :
    cur.IsAt text (cur.index text)
      ∧ cur.position.line < wordLimit ∧ cur.position.column < wordLimit
      ∧ ∀ close, close ≠ [] →
        (∃ k, IsFirstFrom text close (cur.index text) k
          ∧ (cur.advanceThrough close).index text = k + close.length)
        ∨ (∀ j, cur.index text ≤ j → ¬ close <+: text.drop j)
          ∧ (cur.advanceThrough close).index text = text.length := by
  obtain ⟨i, hat⟩ := h.exists_isAt
  have hreach := h.reach_le
  rw [Cursor.reach] at hreach
  rw [hat.index_eq]
  refine ⟨hat, by omega, by omega, ?_⟩
  intro close hclose
  rcases hat.advanceThrough hclose with ⟨k, hfirst, hstop⟩ | ⟨hnone, hstop⟩
  · exact Or.inl ⟨k, hfirst, hstop.index_eq⟩
  · exact Or.inr ⟨hnone, hstop.index_eq⟩

/-- Between the two characters of a line's end, the carriage return takes no column. Of the two
marks that follow and overlap, the first one is found. -/
theorem isAt_index_of_reachable_in_line_end :
    units "😀\r\n\t***/".toList < wordLimit
      ∧ ∃ cur, Cursor.Reachable "😀\r\n\t***/".toList cur ∧ cur.position = ⟨0, 2⟩
        ∧ cur.IsAt "😀\r\n\t***/".toList 2
        ∧ IsFirstFrom "😀\r\n\t***/".toList ['*', '*'] 2 4 := by
  have hlen : units "😀\r\n\t***/".toList < wordLimit := by decide +kernel
  have hreachable : Cursor.Reachable "😀\r\n\t***/".toList
      ((Cursor.start "😀\r\n\t***/".toList).advanceBy 2) := .advanceBy 2 .start
  obtain ⟨hat, _, _, hthrough⟩ := isAt_index_of_reachable "😀\r\n\t***/".toList hlen hreachable
  refine ⟨hlen, _, hreachable, rfl, hat, ?_⟩
  have hindex : (((Cursor.start "😀\r\n\t***/".toList).advanceBy 2).advanceThrough
      ['*', '*']).index "😀\r\n\t***/".toList = 6 := rfl
  rcases hthrough ['*', '*'] (by simp) with ⟨k, hfirst, hstop⟩ | ⟨_, hstop⟩
  · have hk : k = 4 := by
      rw [hindex] at hstop
      simp only [List.length_cons, List.length_nil] at hstop
      omega
    rw [hk] at hfirst
    exact hfirst
  · rw [hindex] at hstop
    cases hstop

end Nadesiko.Text
