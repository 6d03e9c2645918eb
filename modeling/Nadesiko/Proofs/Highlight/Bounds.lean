import Mathlib
import Nadesiko.Proofs.Highlight.Buffer
import Nadesiko.Proofs.Highlight.Shown

/-!
# Columns and the lengths of lines

The cursor counts columns character by character, and the table of lengths is made of whole lines.
Both leave out the carriage return of a line's end, but they find it differently: the cursor looks
for the line feed behind it, and the table looks at the last character of a line. So they agree on
every line that a line feed ends, whatever stands on it.

The last line has no line feed. If the text ends with a carriage return, the cursor counts it and
the table does not, and the end of the text is one column beyond the table. This one place is
`Overhangs`, and it is the only one: `Reached.column_le_iff`.
-/

namespace Nadesiko.Text

/-- A text up to the end of one of its lines, without the line feed there. -/
def upToLineEnd (text : List Char) (line : Nat) : List Char :=
  ['\n'].intercalate ((text.splitOn '\n').take (line + 1))

/-- The position that a cursor has reached at the end of a line. -/
def lineStop (text : List Char) (line : Nat) : Position :=
  ((Cursor.start text).advanceBy (upToLineEnd text line).length).position

/-- The position that a cursor has reached at the end of a text. -/
def textStop (text : List Char) : Position :=
  ((Cursor.start text).advanceBy text.length).position

/-- The place behind a carriage return that ends a text. -/
def Overhangs (text : List Char) (p : Position) : Prop :=
  text.getLast? = some '\r' ∧ p = textStop text

/-- A position that is on a line of a text, and no further than its end. -/
structure Reached (text : List Char) (p : Position) : Prop where
  line_le : p.line ≤ text.count '\n'
  column_le : p.column ≤ (lineStop text p.line).column

/-! ## Up to the end of a line -/

theorem intercalate_cons_modifyHead (c : Char) {pieces : List (List Char)} (h : pieces ≠ []) :
    ['\n'].intercalate (pieces.modifyHead (c :: ·)) = c :: ['\n'].intercalate pieces := by
  cases pieces with
  | nil => exact absurd rfl h
  | cons piece pieces =>
      cases pieces with
      | nil => simp [List.intercalate]
      | cons next pieces => simp [List.intercalate]

/-- The end of the line of a place is behind what follows the place on its line. -/
theorem upToLineEnd_append (before after : List Char) :
    upToLineEnd (before ++ after) (before.count '\n') = before ++ firstLine after := by
  unfold upToLineEnd
  rw [← lines_eq_splitOn]
  induction before with
  | nil =>
      have hfirst := head?_lines after
      cases hl : lines after with
      | nil => rw [hl] at hfirst; cases hfirst
      | cons first others =>
          rw [hl, List.getElem?_cons_zero, Option.some.injEq] at hfirst
          simp [hl, hfirst, List.intercalate]
  | cons c before ih =>
      have hne : (lines (before ++ after)).take (before.count '\n' + 1) ≠ [] := by
        have hlength := length_lines (before ++ after)
        rw [← List.length_pos_iff, List.length_take]
        omega
      by_cases hc : c = '\n'
      · subst hc
        rw [List.cons_append, lines, List.count_cons_self, List.take_succ_cons]
        cases hl : (lines (before ++ after)).take (before.count '\n' + 1) with
        | nil => exact absurd hl hne
        | cons first others =>
            rw [hl] at ih
            rw [List.cons_append, ← ih]
            simp [List.intercalate]
      · rw [List.cons_append, lines_cons_of_ne hc, List.count_cons_of_ne hc, List.take_modifyHead,
          intercalate_cons_modifyHead c hne, ih]
        rfl

theorem lineStop_append (before after : List Char) :
    lineStop (before ++ after) (before.count '\n')
      = place (before ++ firstLine after) (behindFirstLine after) := by
  have hsplit : before ++ after = before ++ firstLine after ++ behindFirstLine after := by
    rw [List.append_assoc, firstLine_append_behind]
  unfold lineStop
  rw [upToLineEnd_append, position_advanceBy_place (position_start_place _), Cursor.rest_start,
    List.nil_append, hsplit, List.take_left, List.drop_left]

theorem textStop_eq (text : List Char) : textStop text = place text [] := by
  unfold textStop
  rw [position_advanceBy_place (position_start_place _), Cursor.rest_start, List.nil_append,
    List.take_length, List.drop_length]

/-- The end of the last line is the end of the text. -/
theorem lineStop_count (text : List Char) : lineStop text (text.count '\n') = textStop text := by
  have hstop := lineStop_append text []
  rw [List.append_nil] at hstop
  rw [hstop, textStop_eq]
  simp [firstLine, behindFirstLine]

/-- Every line has a place on it. -/
theorem exists_append_of_le_count {text : List Char} {line : Nat} (h : line ≤ text.count '\n') :
    ∃ before after, text = before ++ after ∧ before.count '\n' = line := by
  induction text generalizing line with
  | nil => exact ⟨[], [], rfl, by simpa [eq_comm] using h⟩
  | cons c text ih =>
      cases line with
      | zero => exact ⟨[], c :: text, rfl, rfl⟩
      | succ line =>
          by_cases hc : c = '\n'
          · rw [hc, List.count_cons_self] at h
            obtain ⟨before, after, htext, hcount⟩ := ih (Nat.le_of_succ_le_succ h)
            exact ⟨c :: before, after, by rw [htext]; rfl, by rw [hc, List.count_cons_self, hcount]⟩
          · rw [List.count_cons_of_ne hc] at h
            obtain ⟨before, after, htext, hcount⟩ := ih h
            exact ⟨c :: before, after, by rw [htext]; rfl, by rw [List.count_cons_of_ne hc, hcount]⟩

theorem lineStop_line {text : List Char} {line : Nat} (h : line ≤ text.count '\n') :
    (lineStop text line).line = line := by
  obtain ⟨before, after, rfl, rfl⟩ := exists_append_of_le_count h
  rw [lineStop_append, place, List.count_append,
    List.count_eq_zero_of_not_mem (newline_notMem_firstLine after), Nat.add_zero]

/-- A place is no further than the end of its line. -/
theorem reached_place (before after : List Char) :
    Reached (before ++ after) (place before after) where
  line_le := by
    rw [place, List.count_append]
    exact Nat.le_add_right _ _
  column_le := by
    have hline : (place before after).line = before.count '\n' := rfl
    rw [hline, lineStop_append, place_append (newline_notMem_firstLine after),
      firstLine_append_behind]
    exact Nat.le_add_right _ _

/-! ## The table of lengths -/

theorem getLast?_lastLine_eq_return_iff (text : List Char) :
    (lastLine text).getLast? = some '\r' ↔ text.getLast? = some '\r' := by
  rcases eq_lastLine text with ⟨heq, _⟩ | ⟨earlier, heq⟩
  · rw [← heq]
  · nth_rewrite 2 [heq]
    rw [List.getLast?_append, List.getLast?_cons]
    cases (lastLine text).getLast? with
    | none => simp
    | some c => simp

/-- The length of a line that a line feed ends is the column at its end. -/
theorem getElem?_lineLengths_of_lt {text : List Char} {line : Nat} (h : line < text.count '\n') :
    (lineLengths text)[line]? = some (lineStop text line).column := by
  obtain ⟨before, after, rfl, rfl⟩ := exists_append_of_le_count (Nat.le_of_lt h)
  have hmem : '\n' ∈ after := by
    rw [List.count_append] at h
    exact List.count_pos_iff.mp (by omega)
  obtain ⟨xs, rest, rfl, hxs⟩ := List.eq_append_cons_of_mem hmem
  have hbehind : behindFirstLine (xs ++ '\n' :: rest) = '\n' :: rest := behindFirstLine_append hxs _
  have hfirst : firstLine (xs ++ '\n' :: rest) = xs := by
    rw [firstLine_append hxs]
    exact List.append_nil xs
  have hlength := getElem?_lineLengths (before ++ xs) rest
  have hline : (place (before ++ xs) ('\n' :: rest)).line = before.count '\n' := by
    rw [place, List.count_append, List.count_eq_zero_of_not_mem hxs, Nat.add_zero]
  rw [hline, List.append_assoc] at hlength
  rw [hlength, lineStop_append, hfirst, hbehind]

/-- The length of the last line leaves out a carriage return that the cursor has counted. -/
theorem getElem?_lineLengths_count (text : List Char) :
    ∃ length, (lineLengths text)[text.count '\n']? = some length
      ∧ (textStop text).column = if text.getLast? = some '\r' then length + 1 else length := by
  have hlines := getElem?_lines text []
  have hfirst : firstLine [] = [] := rfl
  rw [List.append_nil, hfirst, List.append_nil] at hlines
  refine ⟨units (lineContent (lastLine text)), ?_, ?_⟩
  · rw [lineLengths, List.getElem?_map, hlines]
    rfl
  · have hstop : (textStop text).column = units (lastLine text) := by
      rw [textStop_eq, place, withoutLineEnds_eq_self (newline_notMem_lastLine text) (by simp)]
    rw [hstop, lineContent]
    simp only [getLast?_lastLine_eq_return_iff]
    split
    · next hlast =>
        rw [← getLast?_lastLine_eq_return_iff, List.getLast?_eq_some_iff] at hlast
        obtain ⟨front, hfront⟩ := hlast
        rw [hfront, List.dropLast_concat, units_append]
        rfl
    · rfl

/-- **At the end of a line the cursor has reached the length of the line, unless a carriage return
ends the text there. Then it is one column further.** -/
theorem exists_length_lineStop {text : List Char} {line : Nat} (h : line ≤ text.count '\n') :
    ∃ length, (lineLengths text)[line]? = some length
      ∧ (Overhangs text (lineStop text line) ∧ (lineStop text line).column = length + 1
        ∨ ¬ Overhangs text (lineStop text line) ∧ (lineStop text line).column = length) := by
  rcases Nat.lt_or_eq_of_le h with hlt | rfl
  · refine ⟨_, getElem?_lineLengths_of_lt hlt, Or.inr ⟨?_, rfl⟩⟩
    -- the text ends on a later line
    rintro ⟨_, hstop⟩
    have hline := congrArg Position.line hstop
    rw [← lineStop_count, lineStop_line h, lineStop_line (Nat.le_refl _)] at hline
    omega
  · obtain ⟨length, hlength, hcolumn⟩ := getElem?_lineLengths_count text
    refine ⟨length, hlength, ?_⟩
    rw [lineStop_count]
    by_cases hlast : text.getLast? = some '\r'
    · rw [if_pos hlast] at hcolumn
      exact Or.inl ⟨⟨hlast, rfl⟩, hcolumn⟩
    · rw [if_neg hlast] at hcolumn
      exact Or.inr ⟨fun hover => hlast hover.1, hcolumn⟩

/-- **What is on a line of a text is within the length of the line, unless it reaches behind a
carriage return that ends the text.** -/
theorem Reached.column_le_iff {text : List Char} {p : Position} (h : Reached text p) :
    ∃ length, (lineLengths text)[p.line]? = some length
      ∧ (p.column ≤ length ↔ ¬ Overhangs text p) := by
  obtain ⟨length, hlength, hstop⟩ := exists_length_lineStop h.line_le
  refine ⟨length, hlength, ?_⟩
  have hline := lineStop_line h.line_le
  have hcolumn := h.column_le
  rcases hstop with ⟨hover, hbeyond⟩ | ⟨hover, hend⟩
  · -- on the last line, only the end of the text is beyond the table
    rw [Overhangs, ← hover.2]
    constructor
    · rintro hle ⟨_, heq⟩
      have := congrArg Position.column heq
      omega
    · intro hnot
      by_contra hlt
      refine hnot ⟨hover.1, ?_⟩
      have hsame : p.column = (lineStop text p.line).column := by omega
      show (⟨p.line, p.column⟩ : Position)
        = ⟨(lineStop text p.line).line, (lineStop text p.line).column⟩
      rw [hline, hsame]
  · refine iff_of_true (hend ▸ hcolumn) ?_
    rintro ⟨hlast, heq⟩
    refine hover ⟨hlast, ?_⟩
    rw [heq, ← lineStop_count, lineStop_line (Nat.le_refl _)]

end Nadesiko.Text

namespace Nadesiko

open Text

/-! ## Tokens and entries -/

theorem reached_of_mem_tokenize {text : List Char} {token : Token} (h : token ∈ tokenize text) :
    Reached text token.start ∧ Reached text token.stop := by
  obtain ⟨lexeme, hmem, hof⟩ := exists_lexeme_of_mem_tokenize h
  have hscan : lexeme ∈ Lexeme.scan (Cursor.start text) := (List.mem_filter.mp hmem).1
  obtain ⟨front, back, htext, hat⟩ := Lexeme.exists_standsAt (position_start_place text) hscan
  rw [List.nil_append, Cursor.rest_start] at htext
  rw [hof, Token.start_ofLexeme, Token.stop_ofLexeme, hat.start_eq, hat.stop_eq]
  have hstart := reached_place front (lexeme.text ++ back)
  have hstop := reached_place (front ++ lexeme.text) back
  rw [← htext] at hstart
  rw [List.append_assoc, ← htext] at hstop
  exact ⟨hstart, hstop⟩

/-- No segment of a token goes further than the end of its line. -/
theorem reached_segmentOn {text : List Char} {token : Token} (h : token ∈ tokenize text)
    (excludeParticle : Bool) {line : Nat} (hfirst : token.start.line ≤ line)
    (hlast : line ≤ token.stop.line) :
    Reached text (token.segmentOn excludeParticle (lineLengths text) line).stop := by
  obtain ⟨hstart, hstop⟩ := reached_of_mem_tokenize h
  have hspan := Position.le_of_lt (wellFormed_of_mem_tokenize h).start_lt_stop
  have hcontent := (Token.successive_tokenize text).contentStop_le token h
  have hend : token.highlightStop excludeParticle ≤ token.stop.column :=
    Token.highlightStop_le hcontent
  have hroom : line = token.start.line → token.start.column ≤ (lineStop text line).column := by
    rintro rfl
    exact hstart.column_le
  refine ⟨Nat.le_trans hlast hstop.line_le, ?_⟩
  dsimp only [Token.segmentOn, Segment.stop]
  by_cases hline : line = token.stop.line
  · have hbound := hstop.column_le
    rw [Position.le_iff] at hspan
    rw [if_pos hline]
    rw [← hline] at hbound
    split <;> omega
  · -- the token goes on below, so a line feed ends this line
    have hlt : line < text.count '\n' := Nat.lt_of_lt_of_le (by omega) hstop.line_le
    rw [if_neg hline, getElem?_lineLengths_of_lt hlt, Option.getD_some]
    split <;> omega

theorem reached_of_mem_highlight {text : List Char} {token : Token} (h : token ∈ tokenize text)
    {legend : Legend} {entry : Entry} (hentry : entry ∈ token.highlight (lineLengths text) legend) :
    Reached text entry.stop := by
  obtain ⟨c, _, _, _, _, hsegment⟩ := Token.mem_highlight_iff.mp hentry
  obtain ⟨⟨hfirst, hlast⟩, hon⟩ := Token.mem_segments_iff.mp hsegment
  have hstop : entry.stop = _ := congrArg Segment.stop hon
  rw [hstop]
  exact reached_segmentOn h _ hfirst hlast

/--
**Columns and the table of lengths agree, but for a carriage return at the end of a text.**

The table has an entry for every line. A cursor at the end of a line has reached the length of the
line, every token stops within the length of the line on which it stops, and so does every entry of
the buffer. The only exception is the place behind a carriage return that ends the text: there the
cursor is one column beyond the length, and so is what stops there.
-/
theorem column_le_lineLengths_iff (text : List Char) (hlen : units text < wordLimit) :
    (lineLengths text).length = text.count '\n' + 1
      ∧ (∀ line < (lineLengths text).length, ∃ length, (lineLengths text)[line]? = some length
        ∧ (lineStop text line).line = line
        ∧ ((lineStop text line).column = length ↔ ¬ Overhangs text (lineStop text line))
        ∧ (Overhangs text (lineStop text line) → (lineStop text line).column = length + 1))
      ∧ (∀ token ∈ tokenize text, ∃ length, (lineLengths text)[token.stop.line]? = some length
        ∧ (token.stop.column ≤ length ↔ ¬ Overhangs text token.stop))
      ∧ ∀ (legend : Legend) (resultId : Option String), legend.modifiers.length ≤ wordBits →
        ∃ buffer entries,
          (Buffer.build (tokenize text) (lineLengths text) legend resultId).outcome = .ok buffer
            ∧ Delta.decode buffer.data = .ok entries
            ∧ ∀ entry ∈ entries, ∃ length, (lineLengths text)[entry.start.line]? = some length
              ∧ (entry.start.column + entry.length ≤ length ↔ ¬ Overhangs text entry.stop) := by
  refine ⟨length_lineLengths text, ?_, ?_, ?_⟩
  · intro line hline
    rw [length_lineLengths] at hline
    have hle : line ≤ text.count '\n' := Nat.le_of_lt_succ hline
    obtain ⟨length, hlength, hstop⟩ := exists_length_lineStop hle
    refine ⟨length, hlength, lineStop_line hle, ?_, ?_⟩
    · rcases hstop with ⟨hover, hcolumn⟩ | ⟨hover, hcolumn⟩
      · exact iff_of_false (by omega) (fun hnot => hnot hover)
      · exact iff_of_true hcolumn hover
    · intro hover
      exact (hstop.resolve_right (fun hnot => hnot.1 hover)).2
  · intro token htoken
    exact (reached_of_mem_tokenize htoken).2.column_le_iff
  · intro legend resultId hl
    obtain ⟨buffer, hbuffer, hdecode⟩ := Buffer.build_decode (Token.successive_tokenize text)
      (fun token h => fitsWords_of_mem_tokenize hlen h) hl (lineLengths text) resultId
    refine ⟨buffer, _, hbuffer, hdecode, ?_⟩
    intro entry hmem
    obtain ⟨token, htoken, hentry⟩ := List.mem_flatMap.mp hmem
    exact (reached_of_mem_highlight htoken hentry).column_le_iff

/-- Two carriage returns before a line feed: the first one takes a column and the second one does
not, for the cursor and for the table. -/
theorem column_le_lineLengths_iff_two_returns :
    units "「あ\r\r\nい」\r\n".toList < wordLimit
      ∧ lineLengths "「あ\r\r\nい」\r\n".toList = [3, 2, 0]
      ∧ (lineStop "「あ\r\r\nい」\r\n".toList 0).column = 3 := by
  have hlen : units "「あ\r\r\nい」\r\n".toList < wordLimit := by decide
  have hlengths : lineLengths "「あ\r\r\nい」\r\n".toList = [3, 2, 0] := by decide +kernel
  obtain ⟨_, hlines, _⟩ := column_le_lineLengths_iff "「あ\r\r\nい」\r\n".toList hlen
  obtain ⟨length, hlength, _, hcolumn, _⟩ := hlines 0 (by rw [hlengths]; decide)
  rw [hlengths] at hlength
  have hnot : ¬ Overhangs "「あ\r\r\nい」\r\n".toList
      (lineStop "「あ\r\r\nい」\r\n".toList 0) := fun hover => absurd hover.1 (by decide)
  exact ⟨hlen, hlengths, (hcolumn.mpr hnot).trans (Option.some.inj hlength).symm⟩

/-- A comment that a carriage return ends, and the text with it: the comment and its highlight are
two columns long, and the line is one. -/
theorem lineStop_column_ne_length :
    (lineLengths "#\r".toList)[0]? = some 1
      ∧ (lineStop "#\r".toList 0).column = 2
      ∧ (tokenize "#\r".toList).map Token.stop = [⟨0, 2⟩]
      ∧ ∃ buffer, (Buffer.build (tokenize "#\r".toList) (lineLengths "#\r".toList) .standard
          none).outcome = .ok buffer
        ∧ Delta.decode buffer.data = .ok [⟨⟨0, 0⟩, 2, 2, 0⟩] := by
  refine ⟨by decide, by decide +kernel, by decide +kernel, ?_⟩
  exact ⟨⟨none, [⟨0, 0, 2, 2, 0⟩]⟩, by decide +kernel, by decide⟩

end Nadesiko
