import Mathlib
import Nadesiko.Proofs.Highlight.Segment
import Nadesiko.Proofs.Text.Lines
import Nadesiko.Proofs.Token.WellFormed

/-!
# The segments of a token show its text

Three computations have to agree before a highlight sits on the right characters: the columns that
the cursor counts, the lengths of the lines, and the cutting of a token into segments. They do. Read
off the lines of the text, the segments of a token give its text back, and only the ends of lines
are missing from it.

A stretch of text is shown line by line. Up to its first line feed it lies on one line, and the rest
is a stretch that starts on the next line, so the argument is an induction on the number of line
feeds.
-/

namespace Nadesiko

open Text

/-- The characters that a segment shows of a text, if it lies on one of the lines, between two
characters. -/
def Segment.shown? (text : List Char) (segment : Segment) : Option (List Char) :=
  (shownLine? text segment.start.line).bind
    (fun line => slice? line segment.start.column segment.length)

/-- A segment ends no later than a line, and between two characters it starts and ends. -/
structure Segment.FitsLine (segment : Segment) (line : List Char) : Prop where
  stop_le : segment.start.column + segment.length ≤ units line
  start_boundary : IsBoundary line segment.start.column
  stop_boundary : IsBoundary line (segment.start.column + segment.length)

theorem Segment.fitsLine_of_shown? {text slice : List Char} {segment : Segment}
    (h : segment.shown? text = some slice) :
    ∃ line, shownLine? text segment.start.line = some line ∧ segment.FitsLine line := by
  obtain ⟨line, hline, hslice⟩ := Option.bind_eq_some_iff.mp h
  obtain ⟨front, back, heq, hcolumn, hlength⟩ := slice?_eq_some_iff.mp hslice
  refine ⟨line, hline, ?_, ⟨front, slice ++ back, heq, hcolumn⟩, ⟨front ++ slice, back, ?_, ?_⟩⟩
  · rw [heq, units_append, units_append]
    omega
  · rw [heq, List.append_assoc]
  · rw [units_append, hcolumn, hlength]

/-- What segments show of a text together, if each of them shows something. -/
def Segment.allShown? (text : List Char) : List Segment → Option (List Char)
  | [] => some []
  | segment :: later => do
    let first ← segment.shown? text
    let rest ← allShown? text later
    return first ++ rest

theorem Segment.allShown?_cons {text first rest : List Char} {segment : Segment}
    {later : List Segment} (hfirst : segment.shown? text = some first)
    (hrest : allShown? text later = some rest) :
    allShown? text (segment :: later) = some (first ++ rest) := by
  rw [allShown?, hfirst, hrest]
  rfl

theorem Segment.shown?_of_allShown? {text shown : List Char} {segments : List Segment}
    (h : allShown? text segments = some shown) :
    ∀ segment ∈ segments, ∃ slice, segment.shown? text = some slice := by
  induction segments generalizing shown with
  | nil => simp
  | cons segment later ih =>
      obtain ⟨first, hfirst, h⟩ := Option.bind_eq_some_iff.mp h
      obtain ⟨rest, hrest, _⟩ := Option.bind_eq_some_iff.mp h
      exact List.forall_mem_cons.mpr ⟨⟨first, hfirst⟩, ih hrest⟩

/-! ## A stretch of text -/

/-- A stretch of one line is shown from the column where it starts. -/
theorem Segment.shown?_place {text before xs after : List Char}
    (htext : text = before ++ (xs ++ after)) (hxs : '\n' ∉ xs) :
    Segment.shown? text ⟨place before (xs ++ after), units (withoutLineEnds after xs)⟩
      = some (withoutLineEnds after xs) := by
  have hline := shownLine?_place before (xs ++ after)
  rw [← htext, firstLine_append hxs, behindFirstLine_append hxs, withoutLineEnds_append,
    firstLine_append_behind] at hline
  rw [Segment.shown?, hline, Option.bind_some, slice?_eq_some_iff]
  exact ⟨_, _, rfl, rfl, rfl⟩

/-- **The segments between two places show the stretch of text between them.** -/
theorem Token.allShown?_segments {text before stretch after : List Char}
    (htext : text = before ++ (stretch ++ after)) {token : Token} {excludeParticle : Bool}
    (hstart : token.start = place before (stretch ++ after))
    (hstop : ⟨token.stop.line, token.highlightStop excludeParticle⟩
      = place (before ++ stretch) after) :
    Segment.allShown? text (token.segments excludeParticle (lineLengths text))
      = some (withoutLineEnds after stretch) := by
  induction hn : stretch.count '\n' generalizing before stretch token with
  | zero =>
      have hnone : '\n' ∉ stretch := List.count_eq_zero.mp hn
      have hshown := Segment.shown?_place htext hnone
      rw [place_append hnone, ← hstart, Position.mk.injEq] at hstop
      obtain ⟨hline, hcolumn⟩ := hstop
      rw [segments_of_line_eq hline.symm, hcolumn, Nat.add_sub_cancel_left, hstart,
        Segment.allShown?_cons hshown rfl, List.append_nil]
  | succ n ih =>
      have hmem : '\n' ∈ stretch := List.count_pos_iff.mp (by omega)
      obtain ⟨xs, rest, rfl, hxs⟩ := List.eq_append_cons_of_mem hmem
      rw [List.append_assoc, List.cons_append] at htext hstart
      have hshown := Segment.shown?_place htext hxs
      rw [← hstart] at hshown
      -- the first line feed: its column is the length of the line
      have hbreak := place_append hxs before ('\n' :: (rest ++ after))
      rw [← hstart] at hbreak
      have hlength := getElem?_lineLengths (before ++ xs) (rest ++ after)
      rw [List.append_assoc, ← htext, hbreak] at hlength
      -- the rest of the stretch starts behind it, on the next line
      have hnext := place_concat_newline (before ++ xs) (rest ++ after)
      rw [hbreak] at hnext
      have hline : token.start.line < token.stop.line := by
        have hfirst := congrArg Position.line hstart
        have hlast := congrArg Position.line hstop
        simp only [place, List.count_append, List.count_cons_self] at hfirst hlast
        omega
      let later : Token := { token with start := ⟨token.start.line + 1, 0⟩ }
      have hlater : Segment.allShown? text (later.segments excludeParticle (lineLengths text))
          = some (withoutLineEnds after rest) := by
        have htext' : text = before ++ xs ++ ['\n'] ++ (rest ++ after) := by
          rw [htext]
          simp
        have hstop' : ⟨later.stop.line, later.highlightStop excludeParticle⟩
            = place (before ++ xs ++ ['\n'] ++ rest) after := by
          rw [List.append_assoc, List.append_assoc]
          exact hstop
        have hcount : rest.count '\n' = n := by
          rw [List.count_append, List.count_cons_self, List.count_eq_zero_of_not_mem hxs] at hn
          omega
        exact ih htext' hnext.symm hstop' hcount
      rw [segments_of_line_lt hline, hlength, Option.getD_some, Nat.add_sub_cancel_left,
        Segment.allShown?_cons hshown hlater, withoutLineEnds_append, withoutLineEnds_newline]
      rfl

/-! ## Where a token stands -/

/-- A lexeme stands in a text behind `front` and before `back`. -/
structure Lexeme.StandsAt (lexeme : Lexeme) (front back : List Char) : Prop where
  start_eq : lexeme.start = place front (lexeme.text ++ back)
  stemStop_eq : lexeme.stemStop
    = place (front ++ lexeme.stem) (lexeme.particleChars ++ back)
  stop_eq : lexeme.stop = place (front ++ lexeme.text) back

theorem Lexeme.standsAt_ofReading {cur : Cursor} {c : Char} {rest before : List Char}
    {reading : Reading} (h : cur.rest = c :: rest) (hr : Reads cur.atLineStart c rest reading)
    (hp : cur.position = place before cur.rest) :
    (ofReading cur reading).StandsAt before (after cur reading).rest := by
  have htext := text_ofReading_append h hr
  have hbehind := rest_behind_stem h hr
  -- past the stem, and from there past the particle
  have hstem : (ofReading cur reading).stemStop = place (before ++ (ofReading cur reading).stem)
      ((ofReading cur reading).particleChars ++ (after cur reading).rest) := by
    refine position_passed_place hp ?_ hbehind
    rw [← htext, Lexeme.text, List.append_assoc]
  have hstop : (ofReading cur reading).stop = place (before ++ (ofReading cur reading).stem
      ++ (ofReading cur reading).particleChars) (after cur reading).rest := by
    rw [← hbehind] at hstem
    exact position_passed_place hstem hbehind rfl
  refine ⟨?_, hstem, ?_⟩
  · rw [htext]
    exact hp
  · rw [hstop, Lexeme.text, List.append_assoc]

/-- **Every lexeme stands where its characters are.** -/
theorem Lexeme.exists_standsAt {cur : Cursor} {before : List Char}
    (hp : cur.position = place before cur.rest) {lexeme : Lexeme} (h : lexeme ∈ scan cur) :
    ∃ front back, before ++ cur.rest = front ++ (lexeme.text ++ back)
      ∧ lexeme.StandsAt front back := by
  revert before h
  refine scan_induction (motive := fun cur lexemes => ∀ {before : List Char},
    cur.position = place before cur.rest → lexeme ∈ lexemes →
    ∃ front back, before ++ cur.rest = front ++ (lexeme.text ++ back)
      ∧ lexeme.StandsAt front back) ?_ ?_ cur
  · intro cur _ before _ h
    cases h
  · intro cur c rest reading later h hr ih before hp hmem
    have hstands := Lexeme.standsAt_ofReading h hr hp
    have htext := text_ofReading_append h hr
    rcases List.mem_cons.mp hmem with rfl | hlater
    · exact ⟨before, (after cur reading).rest, by rw [htext], hstands⟩
    · -- the cursor behind the first lexeme is at its place too
      obtain ⟨front, back, heq, hat⟩ := ih hstands.stop_eq hlater
      refine ⟨front, back, ?_, hat⟩
      rw [← heq, List.append_assoc, htext]

namespace Token

variable {token : Token} {lexeme : Lexeme}

theorem IsOf.particle_eq (h : token.IsOf lexeme) (hs : lexeme.Sound) :
    token.particle.toList = lexeme.particleChars := by
  rw [h, Lexeme.particleChars]
  cases hp : lexeme.particle with
  | none => rw [ofLexeme_of_none _ hp]; rfl
  | some particle =>
      have hne := ne_empty_of_mem_particles (hs.particle_mem particle hp).1
      rw [ofLexeme_of_some _ hp hne]

theorem IsOf.text_eq (h : token.IsOf lexeme) : token.text.toList = lexeme.text := by
  rw [h, text_ofLexeme, String.toList_ofList]

theorem IsOf.stem_eq (h : token.IsOf lexeme) (hs : lexeme.Sound) :
    token.stem.toList = lexeme.stem := by
  have htext : token.text.toList = lexeme.stem ++ token.particle.toList := by
    rw [h.text_eq, h.particle_eq hs, Lexeme.text]
  rw [stem_of_text_eq htext, String.toList_ofList]

theorem IsOf.contentEnd_eq (h : token.IsOf lexeme) (hs : lexeme.Sound) :
    token.contentEnd = lexeme.stemStop := by
  rw [h]
  cases hp : lexeme.particle with
  | none => rw [ofLexeme_of_none _ hp, ← hs.stop_eq hp]; rfl
  | some particle =>
      obtain ⟨hmem, hstop⟩ := hs.particle_mem particle hp
      rw [ofLexeme_of_some _ hp (ne_empty_of_mem_particles hmem), contentEnd, hstop]

end Token

/--
**The segments of a token show its text, and without the particle they show its stem.**

The token stands in the text at its start. Each segment lies on a line between two characters, and
what the segments show, put together, is the text of the token without the ends of its lines.
-/
theorem segments_show_text {text : List Char} {token : Token} (h : token ∈ tokenize text) :
    ∃ before after, text = before ++ (token.text.toList ++ after)
      ∧ token.start = ((Cursor.start text).advanceBy before.length).position
      ∧ token.text.toList = token.stem.toList ++ token.particle.toList
      ∧ (∀ excludeParticle, ∀ segment ∈ token.segments excludeParticle (lineLengths text),
        ∃ line, shownLine? text segment.start.line = some line ∧ segment.FitsLine line)
      ∧ Segment.allShown? text (token.segments false (lineLengths text))
        = some (withoutLineEnds after token.text.toList)
      ∧ Segment.allShown? text (token.segments true (lineLengths text))
        = some (withoutLineEnds (token.particle.toList ++ after) token.stem.toList) := by
  obtain ⟨lexeme, hmem, hof⟩ := exists_lexeme_of_mem_tokenize h
  have hs := (Lexeme.sound_of_mem_solid hmem).1
  have hscan : lexeme ∈ Lexeme.scan (Cursor.start text) := (List.mem_filter.mp hmem).1
  obtain ⟨before, after, htext, hat⟩ := Lexeme.exists_standsAt (position_start_place text) hscan
  rw [List.nil_append, Cursor.rest_start] at htext
  have hstart : token.start = lexeme.start := by rw [hof, Token.start_ofLexeme]
  have hstop : token.stop = lexeme.stop := by rw [hof, Token.stop_ofLexeme]
  rw [hof.text_eq, hof.particle_eq hs, hof.stem_eq hs]
  have hstem : text = before ++ (lexeme.stem ++ (lexeme.particleChars ++ after)) := by
    rw [htext, Lexeme.text, List.append_assoc]
  have hwhole : Segment.allShown? text (token.segments false (lineLengths text))
      = some (withoutLineEnds after lexeme.text) :=
    Token.allShown?_segments htext (hstart.trans hat.start_eq) (hstop.trans hat.stop_eq)
  have hcontent : Segment.allShown? text (token.segments true (lineLengths text))
      = some (withoutLineEnds (lexeme.particleChars ++ after) lexeme.stem) := by
    refine Token.allShown?_segments hstem ?_ ((hof.contentEnd_eq hs).trans hat.stemStop_eq)
    rw [hstart, hat.start_eq, Lexeme.text, List.append_assoc]
  have hplace : ((Cursor.start text).advanceBy before.length).position = lexeme.start := by
    rw [position_advanceBy_place (position_start_place text), Cursor.rest_start, List.nil_append]
    rw [htext, List.take_left, List.drop_left, hat.start_eq]
  refine ⟨before, after, htext, hstart.trans hplace.symm, rfl, ?_, hwhole, hcontent⟩
  intro excludeParticle segment hsegment
  have hshown : ∃ slice, segment.shown? text = some slice := by
    cases excludeParticle with
    | false => exact Segment.shown?_of_allShown? hwhole segment hsegment
    | true => exact Segment.shown?_of_allShown? hcontent segment hsegment
  obtain ⟨slice, hslice⟩ := hshown
  exact Segment.fitsLine_of_shown? hslice

/-- A string over three lines, one of them empty: both characters of each line's end are left out,
and the second time the particle too. -/
theorem segments_show_text_three_lines :
    (⟨.string, "「あ\r\n\r\n😀」を", ⟨0, 0⟩, ⟨2, 4⟩, 3, "を", some 3⟩ : Token)
        ∈ tokenize "「あ\r\n\r\n😀」を".toList
      ∧ Segment.allShown? "「あ\r\n\r\n😀」を".toList [⟨⟨0, 0⟩, 2⟩, ⟨⟨1, 0⟩, 0⟩, ⟨⟨2, 0⟩, 4⟩]
        = some "「あ😀」を".toList
      ∧ Segment.allShown? "「あ\r\n\r\n😀」を".toList [⟨⟨0, 0⟩, 2⟩, ⟨⟨1, 0⟩, 0⟩, ⟨⟨2, 0⟩, 3⟩]
        = some "「あ😀」".toList := by
  have hmem : (⟨.string, "「あ\r\n\r\n😀」を", ⟨0, 0⟩, ⟨2, 4⟩, 3, "を", some 3⟩ : Token)
      ∈ tokenize "「あ\r\n\r\n😀」を".toList := by decide +kernel
  obtain ⟨before, after, htext, _, _, _, hwhole, hcontent⟩ := segments_show_text hmem
  have hafter : after = [] := by
    have hlength := congrArg List.length htext
    simp only [List.length_append] at hlength
    exact List.eq_nil_of_length_eq_zero (by omega)
  have hlengths : lineLengths "「あ\r\n\r\n😀」を".toList = [2, 0, 4] := by decide +kernel
  have htext' : withoutLineEnds [] "「あ\r\n\r\n😀」を".toList = "「あ😀」を".toList := by
    decide +kernel
  have hstem : withoutLineEnds "を".toList
      (Token.stem ⟨.string, "「あ\r\n\r\n😀」を", ⟨0, 0⟩, ⟨2, 4⟩, 3, "を", some 3⟩).toList
        = "「あ😀」".toList := by
    decide +kernel
  rw [hafter, hlengths] at hwhole hcontent
  rw [htext'] at hwhole
  rw [List.append_nil, hstem] at hcontent
  exact ⟨hmem, hwhole, hcontent⟩

end Nadesiko
