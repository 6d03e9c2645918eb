import Mathlib
import Nadesiko.Proofs.Text.Movement
import Nadesiko.Text.Lines

/-!
# Where the characters of a text stand

A place in a text cuts it into what stands before and what comes after. Its line is the number of
line feeds before it, and its column is the length of what stands before it on its line, not
counting the carriage return of the line's end: this is `place`, and a cursor is always there.

What a line shows is then the part before a place on it, followed by the part after. Carriage
returns need care on both sides. Whether one is part of a line's end depends on the character behind
it, which may lie on the other side of the place, and so everything is said of a stretch of text
together with what comes later.
-/

namespace Nadesiko.Text

/-- A stretch of text without the ends of its lines: without the line feeds, and without each
carriage return directly before a line feed. What comes `later` decides about a carriage return at
the end of the stretch. -/
def withoutLineEnds (later : List Char) : List Char → List Char
  | [] => []
  | c :: rest =>
    if c = '\n' ∨ (c = '\r' ∧ (rest ++ later).head? = some '\n') then withoutLineEnds later rest
    else c :: withoutLineEnds later rest

/-- A line of a text as it is shown: a piece between line feeds, without one carriage return at its
end if a line feed follows the piece. -/
def shownLine? (text : List Char) (index : Nat) : Option (List Char) :=
  (text.splitOn '\n')[index]?.map (fun piece =>
    if index + 1 < (text.splitOn '\n').length ∧ piece.getLast? = some '\r' then piece.dropLast
    else piece)

/-- Whether the boundary of a character of a line is at a column. -/
def IsBoundary (line : List Char) (column : Nat) : Prop :=
  ∃ front back, line = front ++ back ∧ units front = column

/-- A line cut behind a number of code units, if the boundary of a character is there. -/
def cut? : Nat → List Char → Option (List Char × List Char)
  | 0, line => some ([], line)
  | _ + 1, [] => none
  | n + 1, c :: rest =>
    if charUnits c ≤ n + 1 then
      (cut? (n + 1 - charUnits c) rest).map (fun (front, back) => (c :: front, back))
    else none

/-- The characters of a line from a column on, up to a length, if both ends are boundaries of
characters. -/
def slice? (line : List Char) (column length : Nat) : Option (List Char) :=
  (cut? column line).bind (fun (_, rest) => (cut? length rest).map Prod.fst)

/-- The part of a text behind its last line feed. -/
def lastLine (text : List Char) : List Char := text.rtakeWhile (· != '\n')

/-- The part of a text before its first line feed. -/
def firstLine (text : List Char) : List Char := text.takeWhile (· != '\n')

/-- A text from its first line feed on. -/
def behindFirstLine (text : List Char) : List Char := text.dropWhile (· != '\n')

/-- The position of the place between two parts of a text. -/
def place (before after : List Char) : Position :=
  ⟨before.count '\n', units (withoutLineEnds after (lastLine before))⟩

/-! ## Slices -/

theorem cut?_units (front back : List Char) :
    cut? (units front) (front ++ back) = some (front, back) := by
  induction front with
  | nil => simp [cut?]
  | cons c front ih =>
      have hpos := charUnits_pos c
      obtain ⟨n, hn⟩ : ∃ n, charUnits c + units front = n + 1 :=
        Nat.exists_eq_succ_of_ne_zero (by omega)
      have hrest : n + 1 - charUnits c = units front := by omega
      rw [units_cons, hn, List.cons_append, cut?, if_pos (by omega), hrest, ih]
      rfl

theorem of_cut?_eq_some {n : Nat} {line front back : List Char}
    (h : cut? n line = some (front, back)) : line = front ++ back ∧ units front = n := by
  fun_induction cut? n line generalizing front back with
  | case1 line =>
      cases h
      exact ⟨rfl, rfl⟩
  | case2 => cases h
  | case3 n c rest hle ih =>
      obtain ⟨⟨front', back'⟩, hcut, heq⟩ := Option.map_eq_some_iff.mp h
      cases heq
      obtain ⟨hrest, hunits⟩ := ih hcut
      rw [hrest, units_cons, hunits]
      exact ⟨rfl, by omega⟩
  | case4 => cases h

/-- A slice is the part of a line between two of its characters, found by counting code units. -/
theorem slice?_eq_some_iff {line slice : List Char} {column length : Nat} :
    slice? line column length = some slice
      ↔ ∃ front back, line = front ++ (slice ++ back) ∧ units front = column
        ∧ units slice = length := by
  constructor
  · intro h
    obtain ⟨⟨front, rest⟩, hcut, h⟩ := Option.bind_eq_some_iff.mp h
    obtain ⟨⟨slice', back⟩, hcut', rfl⟩ := Option.map_eq_some_iff.mp h
    obtain ⟨hline, hcolumn⟩ := of_cut?_eq_some hcut
    obtain ⟨hrest, hlength⟩ := of_cut?_eq_some hcut'
    exact ⟨front, back, by rw [hline, hrest], hcolumn, hlength⟩
  · rintro ⟨front, back, rfl, rfl, rfl⟩
    rw [slice?, cut?_units, Option.bind_some]
    dsimp only
    rw [cut?_units]
    rfl

/-! ## Line ends -/

theorem withoutLineEnds_append (later xs ys : List Char) :
    withoutLineEnds later (xs ++ ys)
      = withoutLineEnds (ys ++ later) xs ++ withoutLineEnds later ys := by
  induction xs with
  | nil => rfl
  | cons c xs ih =>
      simp only [List.cons_append, withoutLineEnds, List.append_assoc, ih]
      split <;> rfl

theorem withoutLineEnds_newline (later rest : List Char) :
    withoutLineEnds later ('\n' :: rest) = withoutLineEnds later rest := by
  rw [withoutLineEnds, if_pos (Or.inl rfl)]

/-- Nothing is left out of a stretch of one line that does not reach the line's end. -/
theorem withoutLineEnds_eq_self {later xs : List Char} (hxs : '\n' ∉ xs)
    (hlater : later.head? ≠ some '\n') : withoutLineEnds later xs = xs := by
  induction xs with
  | nil => rfl
  | cons c xs ih =>
      rw [List.mem_cons, not_or] at hxs
      have hnext : (xs ++ later).head? ≠ some '\n' := by
        cases xs with
        | nil => exact hlater
        | cons d xs =>
            intro heq
            exact hxs.2 (by simp [Option.some.inj heq])
      have hkeep : ¬ (c = '\n' ∨ (c = '\r' ∧ (xs ++ later).head? = some '\n')) := by
        rintro (hc | ⟨_, hc⟩)
        · exact hxs.1 hc.symm
        · exact hnext hc
      rw [withoutLineEnds, if_neg hkeep, ih hxs.2]

/-- Before a line feed, the rule for line ends and the rule for the content of a line agree. -/
theorem withoutLineEnds_eq_lineContent {line : List Char} (later : List Char)
    (hline : '\n' ∉ line) : withoutLineEnds ('\n' :: later) line = lineContent line := by
  rcases List.eq_nil_or_concat line with rfl | ⟨front, c, rfl⟩
  · rfl
  · rw [List.concat_eq_append] at hline ⊢
    rw [List.mem_append, List.mem_singleton, not_or] at hline
    have hc : (([c] ++ '\n' :: later).head?) ≠ some '\n' := by
      intro heq
      exact hline.2 (Option.some.inj heq).symm
    rw [withoutLineEnds_append, withoutLineEnds_eq_self hline.1 hc, lineContent,
      List.getLast?_concat, List.dropLast_concat]
    by_cases hr : c = '\r'
    · simp [withoutLineEnds, hr]
    · simp [withoutLineEnds, hr, Ne.symm hline.2]

/-! ## A cursor is at its place -/

theorem lastLine_concat_newline (before : List Char) : lastLine (before ++ ['\n']) = [] := by
  simp [lastLine]

theorem lastLine_append {xs : List Char} (hxs : '\n' ∉ xs) (before : List Char) :
    lastLine (before ++ xs) = lastLine before ++ xs := by
  induction xs using List.reverseRecOn with
  | nil => simp
  | append_singleton xs c ih =>
      rw [List.mem_append, List.mem_singleton, not_or] at hxs
      have hc : (c != '\n') = true := bne_iff_ne.mpr (Ne.symm hxs.2)
      rw [← List.append_assoc, ← List.append_assoc, ← ih hxs.1, lastLine, List.rtakeWhile_concat,
        if_pos hc]
      rfl

/-- Along a line, the column grows by what is passed without the line's end. -/
theorem place_append {xs : List Char} (hxs : '\n' ∉ xs) (before after : List Char) :
    place (before ++ xs) after
      = ⟨(place before (xs ++ after)).line,
          (place before (xs ++ after)).column + units (withoutLineEnds after xs)⟩ := by
  simp only [place, lastLine_append hxs, withoutLineEnds_append, units_append, List.count_append,
    List.count_eq_zero_of_not_mem hxs, Nat.add_zero]

theorem place_concat_newline (before after : List Char) :
    place (before ++ ['\n']) after = ⟨(place before ('\n' :: after)).line + 1, 0⟩ := by
  simp [place, lastLine_concat_newline, withoutLineEnds]

theorem position_advance_place {cur : Cursor} {before : List Char} {c : Char} {rest : List Char}
    (hp : cur.position = place before cur.rest) (h : cur.rest = c :: rest) :
    cur.advance.position = place (before ++ [c]) rest := by
  rw [h] at hp
  unfold Cursor.advance
  split
  · next hnil => rw [hnil] at h; cases h
  · next rest' hrest =>
      obtain ⟨rfl, rfl⟩ := List.cons.inj (hrest.symm.trans h)
      rw [place_concat_newline, ← hp]
  · next rest' hrest =>
      obtain ⟨rfl, rfl⟩ := List.cons.inj (hrest.symm.trans h)
      rw [place_append (by simp), List.singleton_append, ← hp]
      simp [withoutLineEnds]
  · next c' rest' hbreak hreturn hrest =>
      obtain ⟨rfl, rfl⟩ := List.cons.inj (h.symm.trans hrest)
      have hkeep : ¬ (c = '\n' ∨ (c = '\r' ∧ rest.head? = some '\n')) := by
        rintro (heq | ⟨heq, hnext⟩)
        · exact hbreak heq
        · obtain ⟨later, hlater⟩ := List.head?_eq_some_iff.mp hnext
          exact hreturn later heq hlater
      rw [not_or] at hkeep
      rw [place_append (by simpa [eq_comm] using hkeep.1), List.singleton_append, ← hp]
      simp [withoutLineEnds, hkeep]

/-- **A cursor that is at its place stays at its place when it moves.** -/
theorem position_advanceBy_place {cur : Cursor} {before : List Char}
    (hp : cur.position = place before cur.rest) (n : Nat) :
    (cur.advanceBy n).position = place (before ++ cur.rest.take n) (cur.rest.drop n) := by
  induction n generalizing cur before with
  | zero => simpa [Cursor.advanceBy] using hp
  | succ n ih =>
      cases h : cur.rest with
      | nil =>
          have hmore := ih hp
          rw [h] at hmore
          rw [Cursor.advanceBy, Cursor.advance_of_nil h, hmore]
          simp
      | cons c rest =>
          have hstep := position_advance_place hp h
          have hrest : cur.advance.rest = rest := by rw [Cursor.rest_advance, h, List.tail_cons]
          rw [← hrest] at hstep
          rw [Cursor.advanceBy, ih hstep, hrest, List.append_assoc, List.singleton_append]
          rfl

/-- A cursor that leaves `left` has passed what stands before it. -/
theorem take_eq_of_rest_advanceBy {cur : Cursor} {passed left : List Char}
    (hrest : cur.rest = passed ++ left) {n : Nat} (hleft : (cur.advanceBy n).rest = left) :
    cur.rest.take n = passed := by
  have hboth : cur.rest.take n ++ left = passed ++ left := by
    rw [← hrest, ← hleft, Cursor.rest_advanceBy, List.take_append_drop]
  exact List.append_cancel_right hboth

theorem position_passed_place {cur : Cursor} {before passed left : List Char}
    (hp : cur.position = place before cur.rest) (hrest : cur.rest = passed ++ left) {n : Nat}
    (hleft : (cur.advanceBy n).rest = left) :
    (cur.advanceBy n).position = place (before ++ passed) left := by
  rw [position_advanceBy_place hp n, take_eq_of_rest_advanceBy hrest hleft, ← hleft,
    Cursor.rest_advanceBy]

theorem position_start_place (text : List Char) :
    (Cursor.start text).position = place [] (Cursor.start text).rest := rfl

/-! ## A line around a place -/

theorem lines_eq_splitOn (text : List Char) : lines text = text.splitOn '\n' := by
  rw [List.splitOn]
  fun_induction lines text with
  | case1 => rfl
  | case2 rest ih => rw [List.splitOnP_cons_eq_if_modifyHead, ih]; rfl
  | case3 c rest hc ih =>
      have hne : ¬ (c == '\n') = true := by simpa using hc
      rw [List.splitOnP_cons_eq_if_modifyHead, if_neg hne, ih]

theorem lines_cons_of_ne {c : Char} (h : c ≠ '\n') (rest : List Char) :
    lines (c :: rest) = (lines rest).modifyHead (c :: ·) := by
  rw [lines]
  exact h

theorem lines_append_newline (xs ys : List Char) :
    lines (xs ++ '\n' :: ys) = lines xs ++ lines ys := by
  simp only [lines_eq_splitOn, List.splitOn]
  exact List.splitOnP_append_cons xs ys rfl

theorem head?_lines (text : List Char) : (lines text)[0]? = some (firstLine text) := by
  fun_induction lines text with
  | case1 => rfl
  | case2 rest => rfl
  | case3 c rest hc ih =>
      have hne : (c != '\n') = true := by simpa using hc
      rw [firstLine, List.takeWhile_cons, if_pos hne]
      rw [← List.head?_eq_getElem?] at ih ⊢
      simp [List.head?_modifyHead, ih, firstLine]

/-- A text is its last line, with earlier lines before it or without. -/
theorem eq_lastLine (text : List Char) :
    text = lastLine text ∧ '\n' ∉ text ∨ ∃ earlier, text = earlier ++ '\n' :: lastLine text := by
  induction text using List.reverseRecOn with
  | nil => exact Or.inl ⟨rfl, by simp⟩
  | append_singleton text c ih =>
      by_cases hc : c = '\n'
      · subst hc
        rw [lastLine_concat_newline]
        exact Or.inr ⟨text, rfl⟩
      · have hmem : '\n' ∉ [c] := by simpa [eq_comm] using hc
        rw [lastLine_append hmem]
        rcases ih with ⟨heq, hnone⟩ | ⟨earlier, heq⟩
        · refine Or.inl ⟨by rw [← heq], ?_⟩
          simp [hnone, Ne.symm hc]
        · refine Or.inr ⟨earlier, ?_⟩
          nth_rewrite 1 [heq]
          simp

theorem newline_notMem_lastLine (text : List Char) : '\n' ∉ lastLine text := by
  intro h
  simpa using List.mem_rtakeWhile_imp h

theorem firstLine_append {xs : List Char} (hxs : '\n' ∉ xs) (after : List Char) :
    firstLine (xs ++ after) = xs ++ firstLine after := by
  refine List.takeWhile_append_of_pos ?_
  intro c hc
  exact bne_iff_ne.mpr (fun heq => hxs (heq ▸ hc))

theorem behindFirstLine_append {xs : List Char} (hxs : '\n' ∉ xs) (after : List Char) :
    behindFirstLine (xs ++ after) = behindFirstLine after := by
  refine List.dropWhile_append_of_pos ?_
  intro c hc
  exact bne_iff_ne.mpr (fun heq => hxs (heq ▸ hc))

theorem firstLine_append_behind (text : List Char) :
    firstLine text ++ behindFirstLine text = text :=
  List.takeWhile_append_dropWhile

theorem newline_notMem_firstLine (text : List Char) : '\n' ∉ firstLine text := by
  intro h
  simpa using List.mem_takeWhile_imp h

/-- The line on which a place is, cut at the place. -/
theorem getElem?_lines (before after : List Char) :
    (lines (before ++ after))[before.count '\n']? = some (lastLine before ++ firstLine after) := by
  rcases eq_lastLine before with ⟨heq, hnone⟩ | ⟨earlier, heq⟩
  · rw [List.count_eq_zero_of_not_mem hnone, head?_lines, firstLine_append hnone, ← heq]
  · have hlast := newline_notMem_lastLine before
    have hcount : before.count '\n' = (lines earlier).length := by
      rw [heq, List.count_append, List.count_cons_self, List.count_eq_zero_of_not_mem hlast,
        length_lines]
    have hlines : lines (before ++ after) = lines earlier ++ lines (lastLine before ++ after) := by
      nth_rewrite 1 [heq]
      rw [List.append_assoc, List.cons_append, lines_append_newline]
    rw [hcount, hlines, List.getElem?_append_right (Nat.le_refl _), Nat.sub_self, head?_lines,
      firstLine_append hlast]

/-- A line is the last one exactly if no line feed comes after it. -/
theorem count_add_one_lt_length_lines_iff (before after : List Char) :
    before.count '\n' + 1 < (lines (before ++ after)).length ↔ '\n' ∈ after := by
  rw [length_lines, List.count_append, ← List.count_pos_iff]
  omega

/-- **A line shows what stands on it before a place, and what stands on it after.** -/
theorem shownLine?_place (before after : List Char) :
    shownLine? (before ++ after) (place before after).line
      = some (withoutLineEnds after (lastLine before)
        ++ withoutLineEnds (behindFirstLine after) (firstLine after)) := by
  have hjoin : withoutLineEnds after (lastLine before)
      ++ withoutLineEnds (behindFirstLine after) (firstLine after)
        = withoutLineEnds (behindFirstLine after) (lastLine before ++ firstLine after) := by
    rw [withoutLineEnds_append, firstLine_append_behind]
  have hline : '\n' ∉ lastLine before ++ firstLine after := by
    rw [List.mem_append, not_or]
    exact ⟨newline_notMem_lastLine before, newline_notMem_firstLine after⟩
  rw [hjoin, shownLine?, ← lines_eq_splitOn, place, getElem?_lines, Option.map_some,
    Option.some.injEq]
  simp only [count_add_one_lt_length_lines_iff]
  by_cases hmem : '\n' ∈ after
  · obtain ⟨xs, rest, hafter, hxs⟩ := List.eq_append_cons_of_mem hmem
    have hbehind : behindFirstLine after = '\n' :: rest := by
      rw [hafter, behindFirstLine_append hxs]
      rfl
    rw [hbehind, withoutLineEnds_eq_lineContent rest hline, lineContent]
    simp only [hmem, true_and]
  · have hbehind : behindFirstLine after = [] := by
      rw [← List.append_nil after, behindFirstLine_append hmem]
      rfl
    rw [hbehind, withoutLineEnds_eq_self hline (by simp), if_neg (fun h => hmem h.1)]

/-- **The length of a line is the column right before its line feed.** -/
theorem getElem?_lineLengths (before rest : List Char) :
    (lineLengths (before ++ '\n' :: rest))[(place before ('\n' :: rest)).line]?
      = some (place before ('\n' :: rest)).column := by
  have hcontent := withoutLineEnds_eq_lineContent rest (newline_notMem_lastLine before)
  rw [lineLengths, List.getElem?_map, place, getElem?_lines]
  simp [firstLine, hcontent]

end Nadesiko.Text
