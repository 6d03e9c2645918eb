import Mathlib
import Nadesiko.Text.Cursor

/-!
# Where a cursor gets to

One step forward never goes back, and it goes strictly forward over every character that is neither
a line feed nor a carriage return. On a stretch without these two the line stays and the column
grows by the length of the stretch.

Positions stay small as well. Every character takes at least one code unit, and a step adds at most
that many to the sum of line and column. So no position that is reached in a text is larger than the
text is long, and a text whose length is a word has only words as lines and columns.
-/

namespace Nadesiko.Text.Cursor

/-- The characters of which the end of a line is made. -/
def breaksLine (c : Char) : Bool := c == '\n' || c == '\r'

theorem advance_of_nil {cur : Cursor} (h : cur.rest = []) : cur.advance = cur := by
  unfold advance
  rw [h]

/-- One step, by the character that is passed and, for a carriage return, the one behind it. -/
theorem advance_of_cons {cur : Cursor} {c : Char} {rest : List Char} (h : cur.rest = c :: rest) :
    cur.advance =
      if c = '\n' then ⟨rest, ⟨cur.position.line + 1, 0⟩, true⟩
      else if c = '\r' ∧ rest.head? = some '\n' then ⟨rest, cur.position, cur.atLineStart⟩
      else ⟨rest, ⟨cur.position.line, cur.position.column + charUnits c⟩,
        cur.atLineStart && isBlank c⟩ := by
  unfold advance
  split
  · next hnil => rw [hnil] at h; cases h
  · next later hrest =>
      obtain ⟨rfl, rfl⟩ := List.cons.inj (hrest.symm.trans h)
      rw [if_pos rfl]
  · next later hrest =>
      obtain ⟨rfl, rfl⟩ := List.cons.inj (hrest.symm.trans h)
      rw [if_neg (by decide), if_pos ⟨rfl, rfl⟩]
  · next d later hbreak hreturn hrest =>
      obtain ⟨rfl, rfl⟩ := List.cons.inj (hrest.symm.trans h)
      rw [if_neg (fun hd => hbreak hd)]
      refine (if_neg ?_).symm
      rintro ⟨hd, hnext⟩
      obtain ⟨behind, hbehind⟩ := List.head?_eq_some_iff.mp hnext
      exact hreturn behind hd hbehind

/-- Over a character that is no part of a line's end, the column grows by its code units. -/
theorem position_advance {cur : Cursor} {c : Char} {rest : List Char} (h : cur.rest = c :: rest)
    (hc : breaksLine c = false) :
    cur.advance.position = ⟨cur.position.line, cur.position.column + charUnits c⟩ := by
  have hbreak : c ≠ '\n' := by rintro rfl; cases hc
  have hreturn : c ≠ '\r' := by rintro rfl; cases hc
  rw [advance_of_cons h, if_neg hbreak, if_neg (fun hr => hreturn hr.1)]

/-- A step never goes back. -/
theorem position_le_advance (cur : Cursor) : cur.position ≤ cur.advance.position := by
  unfold advance
  split
  · exact Position.le_refl _
  · exact Or.inl (Nat.lt_succ_self _)
  · exact Position.le_refl _
  · exact Or.inr ⟨rfl, Nat.le_add_right _ _⟩

theorem position_lt_advance {cur : Cursor} {c : Char} {rest : List Char}
    (h : cur.rest = c :: rest) (hc : breaksLine c = false) :
    cur.position < cur.advance.position := by
  rw [position_advance h hc]
  exact Or.inr ⟨rfl, Nat.lt_add_of_pos_right (charUnits_pos c)⟩

theorem position_le_advanceBy (cur : Cursor) (n : Nat) :
    cur.position ≤ (cur.advanceBy n).position := by
  induction n generalizing cur with
  | zero => exact Position.le_refl _
  | succ n ih => exact Position.le_trans cur.position_le_advance (ih cur.advance)

theorem position_lt_advanceBy_succ {cur : Cursor} {c : Char} {rest : List Char}
    (h : cur.rest = c :: rest) (hc : breaksLine c = false) (n : Nat) :
    cur.position < (cur.advanceBy (n + 1)).position :=
  Position.lt_of_lt_of_le (position_lt_advance h hc) (position_le_advanceBy cur.advance n)

/-- Over a stretch without a line's end, the line stays and the column grows by its length. -/
theorem position_advanceBy_length {cur : Cursor} {stretch later : List Char}
    (h : cur.rest = stretch ++ later) (hc : ∀ c ∈ stretch, breaksLine c = false) :
    (cur.advanceBy stretch.length).position
      = ⟨cur.position.line, cur.position.column + units stretch⟩ := by
  induction stretch generalizing cur with
  | nil => rfl
  | cons c stretch ih =>
      rw [List.cons_append] at h
      have hrest : cur.advance.rest = stretch ++ later := by rw [rest_advance, h, List.tail_cons]
      have hstep := position_advance h (hc c (List.mem_cons_self ..))
      have hmore := ih hrest (fun c' hc' => hc c' (List.mem_cons_of_mem c hc'))
      rw [hstep] at hmore
      rw [List.length_cons, advanceBy, hmore, units_cons, Nat.add_assoc]

/-! ## Positions are words -/

/-- How far a cursor can get at most, in lines and columns together. -/
def reach (cur : Cursor) : Nat := cur.position.line + cur.position.column + units cur.rest

theorem reach_advance_le (cur : Cursor) : cur.advance.reach ≤ cur.reach := by
  unfold advance reach
  split
  · exact Nat.le_refl _
  · next rest hrest =>
      -- the line feed takes a unit and gives a line
      have := charUnits_pos '\n'
      simp only [hrest, units_cons]
      omega
  · next rest hrest =>
      simp only [hrest, units_cons]
      omega
  · next c rest _ _ hrest =>
      simp only [hrest, units_cons]
      omega

theorem reach_advanceBy_le (cur : Cursor) (n : Nat) : (cur.advanceBy n).reach ≤ cur.reach := by
  induction n generalizing cur with
  | zero => exact Nat.le_refl _
  | succ n ih => exact Nat.le_trans (ih cur.advance) cur.reach_advance_le

end Nadesiko.Text.Cursor
