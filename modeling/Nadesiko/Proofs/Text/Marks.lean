import Mathlib
import Nadesiko.Proofs.Text.Lines

/-!
# Closing marks and starts of lines

Two things that a cursor finds out step by step can be said of the text as a whole. The search for a
closing mark stops behind the first place at which the mark is written, wherever it is written
again, and without any such place it stops at the end. And the flag that a cursor carries along says
that the line it is on has nothing but blanks before it.
-/

namespace Nadesiko.Text

/-! ## Closing marks -/

/-- A stretch that ends with the first closing mark in it and behind it, or that is all there is
left when no closing mark comes. -/
def RunsThrough (close stretch rest : List Char) : Prop :=
  (∃ content, stretch = content ++ close
    ∧ ∀ front back, stretch ++ rest = front ++ close ++ back → content.length ≤ front.length)
    ∨ (rest = [] ∧ ¬ close <:+: stretch)

/-- Where no closing mark is written, the search goes on with the next character. -/
theorem RunsThrough.cons {close stretch rest : List Char} {c : Char}
    (hc : ¬ close <+: c :: (stretch ++ rest)) (h : RunsThrough close stretch rest) :
    RunsThrough close (c :: stretch) rest := by
  rcases h with ⟨content, hstretch, hfirst⟩ | ⟨hrest, hnone⟩
  · refine Or.inl ⟨c :: content, by rw [hstretch, List.cons_append], ?_⟩
    intro front back heq
    cases front with
    | nil =>
        refine absurd ⟨back, ?_⟩ hc
        rw [← List.cons_append, heq, List.nil_append]
    | cons d front =>
        have hlater := (List.cons.inj heq).2
        exact Nat.succ_le_succ (hfirst front back hlater)
  · refine Or.inr ⟨hrest, ?_⟩
    rw [List.infix_cons_iff, not_or]
    refine ⟨?_, hnone⟩
    rw [hrest, List.append_nil] at hc
    exact hc

/-- **The search for a closing mark stops behind the first one.** -/
theorem runsThrough_lengthThrough {close : List Char} (hclose : close ≠ []) (text : List Char) :
    RunsThrough close (text.take (lengthThrough close text))
      (text.drop (lengthThrough close text)) := by
  induction text with
  | nil =>
      refine Or.inr ⟨rfl, ?_⟩
      intro hinfix
      exact hclose (List.infix_nil.mp hinfix)
  | cons c text ih =>
      rw [lengthThrough]
      by_cases hhere : close.isPrefixOf (c :: text) = true
      · rw [if_pos hhere]
        have htake := List.prefix_iff_eq_take.mp (List.isPrefixOf_iff_prefix.mp hhere)
        exact Or.inl ⟨[], htake.symm, fun front back _ => Nat.zero_le _⟩
      · rw [if_neg hhere, List.take_succ_cons, List.drop_succ_cons]
        refine ih.cons ?_
        rw [List.take_append_drop]
        exact fun hprefix => hhere (List.isPrefixOf_iff_prefix.mpr hprefix)

/-! ## Starts of lines -/

/-- Only blanks stand behind the last line feed of a text. -/
def EndsInBlankLine (before : List Char) : Prop := ∀ c ∈ lastLine before, isBlank c = true

theorem endsInBlankLine_concat_newline (before : List Char) :
    EndsInBlankLine (before ++ ['\n']) := by
  rw [EndsInBlankLine, lastLine_concat_newline]
  simp

theorem endsInBlankLine_concat {c : Char} (hc : c ≠ '\n') (before : List Char) :
    EndsInBlankLine (before ++ [c]) ↔ EndsInBlankLine before ∧ isBlank c = true := by
  have hone : '\n' ∉ [c] := by
    rw [List.mem_singleton]
    exact Ne.symm hc
  rw [EndsInBlankLine, lastLine_append hone, List.forall_mem_append, List.forall_mem_singleton]
  rfl

theorem atLineStart_advance_iff {cur : Cursor} {before : List Char} {c : Char} {rest : List Char}
    (hs : cur.atLineStart = true ↔ EndsInBlankLine before) (h : cur.rest = c :: rest) :
    cur.advance.atLineStart = true ↔ EndsInBlankLine (before ++ [c]) := by
  rw [Cursor.advance_of_cons h]
  by_cases hbreak : c = '\n'
  · rw [if_pos hbreak, hbreak]
    exact iff_of_true rfl (endsInBlankLine_concat_newline before)
  rw [if_neg hbreak, endsInBlankLine_concat hbreak, ← hs]
  split_ifs with hreturn
  · -- the carriage return of a line's end is a blank like any other
    have hblank : isBlank c = true := by rw [hreturn.1]; rfl
    exact (and_iff_left hblank).symm
  · exact Bool.and_eq_true_iff

/-- **A cursor knows whether only blanks precede it on its line.** -/
theorem atLineStart_advanceBy_iff {cur : Cursor} {before : List Char}
    (hs : cur.atLineStart = true ↔ EndsInBlankLine before) (n : Nat) :
    (cur.advanceBy n).atLineStart = true ↔ EndsInBlankLine (before ++ cur.rest.take n) := by
  induction n generalizing cur before with
  | zero =>
      rw [List.take_zero, List.append_nil]
      exact hs
  | succ n ih =>
      cases h : cur.rest with
      | nil =>
          have hmore := ih hs
          rw [h] at hmore
          rw [Cursor.advanceBy, Cursor.advance_of_nil h, hmore, List.take_nil, List.take_nil]
      | cons c rest =>
          have hrest : cur.advance.rest = rest := by rw [Cursor.rest_advance, h, List.tail_cons]
          rw [Cursor.advanceBy, ih (atLineStart_advance_iff hs h), hrest, List.append_assoc,
            List.singleton_append]
          rfl

theorem atLineStart_passed_iff {cur : Cursor} {before passed left : List Char}
    (hs : cur.atLineStart = true ↔ EndsInBlankLine before) (hrest : cur.rest = passed ++ left)
    {n : Nat} (hleft : (cur.advanceBy n).rest = left) :
    (cur.advanceBy n).atLineStart = true ↔ EndsInBlankLine (before ++ passed) := by
  rw [atLineStart_advanceBy_iff hs n, take_eq_of_rest_advanceBy hrest hleft]

end Nadesiko.Text
