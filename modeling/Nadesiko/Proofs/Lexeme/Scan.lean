import Mathlib
import Nadesiko.Proofs.Text.Movement
import Nadesiko.Lexeme.Basic

/-!
# Lexemes follow each other without loss

Reading decides how many characters a lexeme takes, and it may only name a particle that really
stands behind them. That is all it takes for nothing to be lost: the characters of a lexeme are then
exactly those that the cursor passes, and the next lexeme starts where this one stops.

What a single reading can be is said once, in `Sound`; whatever holds of all lexemes of a text
follows from it by `scan_induction`.
-/

namespace Nadesiko.Lexeme

open Text Lexicon

/-! ## One reading -/

/-- The end of a word is where its particle stands. -/
theorem particle?_of_wordEnd {last : Char} {before rest : List Char} {particle : String}
    (h : (wordEnd last before rest).2 = some particle) :
    particle? (rest.drop (wordEnd last before rest).1) = some particle := by
  fun_induction wordEnd last before rest with
  | case1 => cases h
  | case2 => cases h
  | case3 last before next rest _ found hfound =>
      -- the particle was looked for only because the word allows one here
      rw [← Option.some.inj h]
      split at hfound
      · exact hfound
      · cases hfound
  | case4 => cases h
  | case5 last before next rest _ _ _ more particle hmore ih =>
      rw [hmore] at ih
      exact ih h

/-- The characters that stand between tokens: blanks and line feeds. -/
def isGapChar (c : Char) : Bool := c == '\n' || isBlank c

/-- Whether neither a word nor a comment, a pragma, a string or a number starts here. -/
def opensNothingElse (atLineStart : Bool) (c : Char) (rest : List Char) : Bool :=
  !startsWord c && !opensLineComment c rest && !opensRangeComment c rest
    && !(opensPragma c && atLineStart) && (stringMark? c).isNone && !isDigit c

/-- What can be read at a character `c` before `rest`, and when. -/
inductive Reads (atLineStart : Bool) (c : Char) (rest : List Char) : Reading → Prop where
  | lineBreak (hc : c = '\n') : Reads atLineStart c rest (.bare .lineBreak 0)
  | blank (hc : isBlank c = true) : Reads atLineStart c rest (.bare .blank 0)
  | word (hg : isGapChar c = false) (hc : startsWord c = true) :
      Reads atLineStart c rest ⟨.word, (wordEnd c [] rest).1, (wordEnd c [] rest).2⟩
  | comma (hg : isGapChar c = false) (hc : c = '、') : Reads atLineStart c rest (.bare .comma 0)
  | sentenceEnd (hg : isGapChar c = false) (hc : c = '。') :
      Reads atLineStart c rest (.bare .sentenceEnd 0)
  | lineComment (hg : isGapChar c = false) (hc : opensLineComment c rest = true) :
      Reads atLineStart c rest (.bare .lineComment (lengthToLineEnd rest))
  | rangeComment (hg : isGapChar c = false) (hc : opensRangeComment c rest = true) :
      Reads atLineStart c rest (readRangeComment rest.tail)
  | pragma (hg : isGapChar c = false) (hc : opensPragma c = true) (hs : atLineStart = true) :
      Reads atLineStart c rest (.bare .pragma (lengthToLineEnd rest))
  | string (hg : isGapChar c = false) {shape : Shape} {close : Char}
      (hc : stringMark? c = some (shape, close)) :
      Reads atLineStart c rest (.beforeParticle shape (lengthThrough [close] rest) rest)
  | number (hg : isGapChar c = false) (hc : isDigit c = true) :
      Reads atLineStart c rest (.beforeParticle .number (numberLength rest) rest)
  | definition (hg : isGapChar c = false) (hc : c = '●') :
      Reads atLineStart c rest (.bare .definition 0)
  | operator (hg : isGapChar c = false) (he : opensNothingElse atLineStart c rest = true)
      {op : Operator} (hc : Operator.ahead? (c :: rest) = some op) :
      Reads atLineStart c rest (.bare (.operator op) (op.spelling.length - 1))
  | unknown (hg : isGapChar c = false) (he : opensNothingElse atLineStart c rest = true)
      (hc : Operator.ahead? (c :: rest) = none) :
      Reads atLineStart c rest (.bare .unknown 0)

/-- **Reading is one of these.** -/
theorem reads_read (atLineStart : Bool) (c : Char) (rest : List Char) :
    Reads atLineStart c rest (read atLineStart c rest) := by
  unfold read
  -- one guard after the other; what is left when all have failed is an operator or nothing known
  by_cases hbreak : (c == '\n') = true
  · rw [if_pos hbreak]
    exact .lineBreak (beq_iff_eq.mp hbreak)
  rw [if_neg hbreak]
  by_cases hblank : isBlank c = true
  · rw [if_pos hblank]
    exact .blank hblank
  rw [if_neg hblank]
  have hg : isGapChar c = false := by simp_all [isGapChar]
  by_cases hword : startsWord c = true
  · rw [if_pos hword]
    exact .word hg hword
  rw [if_neg hword]
  by_cases hcomma : (c == '、') = true
  · rw [if_pos hcomma]
    exact .comma hg (beq_iff_eq.mp hcomma)
  rw [if_neg hcomma]
  by_cases hstop : (c == '。') = true
  · rw [if_pos hstop]
    exact .sentenceEnd hg (beq_iff_eq.mp hstop)
  rw [if_neg hstop]
  by_cases hline : opensLineComment c rest = true
  · rw [if_pos hline]
    exact .lineComment hg hline
  rw [if_neg hline]
  by_cases hrange : opensRangeComment c rest = true
  · rw [if_pos hrange]
    exact .rangeComment hg hrange
  rw [if_neg hrange]
  by_cases hpragma : (opensPragma c && atLineStart) = true
  · rw [if_pos hpragma]
    rw [Bool.and_eq_true] at hpragma
    exact .pragma hg hpragma.1 hpragma.2
  rw [if_neg hpragma]
  cases hmark : stringMark? c with
  | some mark => exact .string hg hmark
  | none =>
      dsimp only
      by_cases hdigit : isDigit c = true
      · rw [if_pos hdigit]
        exact .number hg hdigit
      rw [if_neg hdigit]
      by_cases hdef : (c == '●') = true
      · rw [if_pos hdef]
        exact .definition hg (beq_iff_eq.mp hdef)
      rw [if_neg hdef]
      have he : opensNothingElse atLineStart c rest = true := by
        rw [Bool.not_eq_true] at hword hline hrange hpragma hdigit
        simp [opensNothingElse, hword, hline, hrange, hpragma, hmark, hdigit]
      cases hop : Operator.ahead? (c :: rest) with
      | some op => exact .operator hg he hop
      | none => exact .unknown hg he hop

/-- A particle that is read stands behind what is read. -/
theorem particle?_of_reads {atLineStart : Bool} {c : Char} {rest : List Char} {reading : Reading}
    {particle : String} (h : Reads atLineStart c rest reading)
    (hp : reading.particle = some particle) :
    particle? (rest.drop reading.more) = some particle := by
  cases h with
  | word => exact particle?_of_wordEnd hp
  | string => exact hp
  | number => exact hp
  | _ => cases hp

theorem not_isGap_of_stringMark? {c close : Char} {shape : Shape}
    (h : stringMark? c = some (shape, close)) : shape.isGap = false := by
  unfold stringMark? at h
  split_ifs at h <;> (cases h; rfl)

/-- Gaps are single characters without a particle, and only blanks and line feeds are gaps. -/
theorem isGap_of_reads {atLineStart : Bool} {c : Char} {rest : List Char} {reading : Reading}
    (h : Reads atLineStart c rest reading) :
    (reading.shape.isGap = true ∧ isGapChar c = true ∧ reading = .bare reading.shape 0)
      ∨ (reading.shape.isGap = false ∧ isGapChar c = false) := by
  cases h with
  | lineBreak hc => exact Or.inl ⟨rfl, by rw [hc]; rfl, rfl⟩
  | blank hc => exact Or.inl ⟨rfl, by simp [isGapChar, hc], rfl⟩
  | string hg hc => exact Or.inr ⟨not_isGap_of_stringMark? hc, hg⟩
  | rangeComment hg hc =>
      refine Or.inr ⟨?_, hg⟩
      simp only [readRangeComment, Reading.bare]
      split <;> rfl
  | word hg => exact Or.inr ⟨rfl, hg⟩
  | comma hg => exact Or.inr ⟨rfl, hg⟩
  | sentenceEnd hg => exact Or.inr ⟨rfl, hg⟩
  | lineComment hg => exact Or.inr ⟨rfl, hg⟩
  | pragma hg => exact Or.inr ⟨rfl, hg⟩
  | number hg => exact Or.inr ⟨rfl, hg⟩
  | definition hg => exact Or.inr ⟨rfl, hg⟩
  | operator hg => exact Or.inr ⟨rfl, hg⟩
  | unknown hg => exact Or.inr ⟨rfl, hg⟩

/-! ## One lexeme -/

/-- What holds of every lexeme by itself. -/
structure Sound (lexeme : Lexeme) : Prop where
  /-- Something is always read. -/
  stem_ne_nil : lexeme.stem ≠ []
  /-- The text of a gap consists of blanks and line feeds. -/
  gap_chars : lexeme.shape.isGap = true → ∀ c ∈ lexeme.text, isGapChar c = true
  /-- A lexeme does not go back. -/
  start_le : lexeme.start ≤ lexeme.stop
  /-- The stem of everything that is not a gap takes room. -/
  start_lt : lexeme.shape.isGap = false → lexeme.start < lexeme.stemStop
  /-- Without a particle a lexeme stops with its stem. -/
  stop_eq : lexeme.particle = none → lexeme.stop = lexeme.stemStop
  /-- A particle is one of the table, and stands on the line on which the stem stops. -/
  particle_mem : ∀ particle, lexeme.particle = some particle →
    particle ∈ particles
      ∧ lexeme.stop = ⟨lexeme.stemStop.line,
          lexeme.stemStop.column + units particle.toList⟩

/-- No particle contains a part of a line's end. -/
theorem not_breaksLine_of_mem_particles :
    ∀ particle ∈ particles, ∀ c ∈ particle.toList, Cursor.breaksLine c = false := by
  have hall : ∀ particle ∈ particles, particle.toList.all (fun c => !Cursor.breaksLine c) = true :=
    by decide
  intro particle hmem c hc
  have hc' := List.all_eq_true.mp (hall particle hmem) c hc
  rwa [Bool.not_eq_true'] at hc'

theorem not_breaksLine_of_not_isGapChar {c : Char} (h : isGapChar c = false) :
    Cursor.breaksLine c = false := by
  simp_all [isGapChar, isBlank, Cursor.breaksLine]

theorem particleLength_eq {reading : Reading} {particle : String}
    (h : reading.particle = some particle) :
    reading.particleLength = particle.toList.length := by
  rw [Reading.particleLength, h, String.length_toList]

/-- A single character without a particle is one step. -/
theorem after_bare_zero (cur : Cursor) (shape : Shape) :
    after cur (.bare shape 0) = cur.advance := rfl

section ofReading

variable {cur : Cursor} {c : Char} {rest : List Char} {reading : Reading}

theorem rest_eq_particle_append (h : cur.rest = c :: rest)
    (hr : Reads cur.atLineStart c rest reading) {particle : String}
    (hp : reading.particle = some particle) :
    particle ∈ particles ∧ ∃ later,
      (cur.advanceBy (reading.more + 1)).rest = particle.toList ++ later := by
  obtain ⟨hmem, later, hlater⟩ := particle?_eq_some (particle?_of_reads hr hp)
  refine ⟨hmem, later, ?_⟩
  rw [Cursor.rest_advanceBy, h, List.drop_succ_cons, hlater]

/-- **The characters of a lexeme are those that the cursor passes.** -/
theorem text_ofReading_append (h : cur.rest = c :: rest)
    (hr : Reads cur.atLineStart c rest reading) :
    (ofReading cur reading).text ++ (after cur reading).rest = cur.rest := by
  have hstem : (ofReading cur reading).stem ++ (cur.advanceBy (reading.more + 1)).rest
      = cur.rest := by
    rw [Cursor.rest_advanceBy]
    exact List.take_append_drop _ _
  cases hp : reading.particle with
  | none =>
      have htext : (ofReading cur reading).text = (ofReading cur reading).stem := by
        simp [text, particleChars, ofReading, hp]
      have hafter : after cur reading = cur.advanceBy (reading.more + 1) := by
        simp [after, Reading.particleLength, hp, Cursor.advanceBy]
      rw [htext, hafter, hstem]
  | some particle =>
      obtain ⟨_, later, hlater⟩ := rest_eq_particle_append h hr hp
      have htext : (ofReading cur reading).text
          = (ofReading cur reading).stem ++ particle.toList := by
        simp [text, particleChars, ofReading, hp]
      have hafter : (after cur reading).rest = later := by
        rw [after, Cursor.rest_advanceBy, hlater, particleLength_eq hp, List.drop_left]
      rw [htext, hafter, List.append_assoc, ← hlater, hstem]

/-- Behind the stem stands the particle, and then what comes after the lexeme. -/
theorem rest_behind_stem (h : cur.rest = c :: rest) (hr : Reads cur.atLineStart c rest reading) :
    (cur.advanceBy (reading.more + 1)).rest
      = (ofReading cur reading).particleChars ++ (after cur reading).rest := by
  have hboth : (ofReading cur reading).stem ++ (cur.advanceBy (reading.more + 1)).rest
      = (ofReading cur reading).stem
        ++ ((ofReading cur reading).particleChars ++ (after cur reading).rest) := by
    rw [Cursor.rest_advanceBy, ← List.append_assoc]
    exact (List.take_append_drop _ _).trans (text_ofReading_append h hr).symm
  exact List.append_cancel_left hboth

theorem sound_ofReading (h : cur.rest = c :: rest) (hr : Reads cur.atLineStart c rest reading) :
    Sound (ofReading cur reading) where
  stem_ne_nil := by
    simp [ofReading, h]
  gap_chars := by
    intro hgap c' hc'
    rcases isGap_of_reads hr with ⟨_, hc, hbare⟩ | ⟨hn, _⟩
    · have htext : (ofReading cur reading).text = [c] := by
        rw [hbare]
        simp [ofReading, text, particleChars, Reading.bare, h]
      rw [htext, List.mem_singleton] at hc'
      rw [hc', hc]
    · rw [show reading.shape.isGap = true from hgap] at hn
      cases hn
  start_le := Position.le_trans (cur.position_le_advanceBy _) (Cursor.position_le_advanceBy _ _)
  start_lt := by
    intro hgap
    rcases isGap_of_reads hr with ⟨hg, _, _⟩ | ⟨_, hc⟩
    · rw [show reading.shape.isGap = false from hgap] at hg
      cases hg
    · exact Cursor.position_lt_advanceBy_succ h (not_breaksLine_of_not_isGapChar hc) _
  stop_eq := by
    intro hp
    have hp' : reading.particle = none := hp
    simp [ofReading, after, Reading.particleLength, hp', Cursor.advanceBy]
  particle_mem := by
    intro particle hp
    obtain ⟨hmem, later, hlater⟩ := rest_eq_particle_append h hr hp
    refine ⟨hmem, ?_⟩
    have hpos := Cursor.position_advanceBy_length hlater (not_breaksLine_of_mem_particles _ hmem)
    rw [← particleLength_eq hp] at hpos
    exact hpos

end ofReading

/-! ## All lexemes -/

/-- What holds at the end of a text, and at a cursor whenever it holds behind what is read there,
holds at every cursor. -/
theorem reading_induction {motive : Cursor → Prop}
    (nil : ∀ cur : Cursor, cur.rest = [] → motive cur)
    (cons : ∀ (cur : Cursor) (c : Char) (rest : List Char), cur.rest = c :: rest →
      motive (after cur (read cur.atLineStart c rest)) → motive cur)
    (cur : Cursor) : motive cur := by
  -- on the number of characters that are left, of which every reading takes some
  induction hn : cur.rest.length using Nat.strongRecOn generalizing cur with
  | ind n ih =>
    cases h : cur.rest with
    | nil => exact nil cur h
    | cons c rest =>
        have hne : cur.rest ≠ [] := by rw [h]; exact List.cons_ne_nil _ _
        have hlt := length_rest_after_lt hne (read cur.atLineStart c rest)
        exact cons cur c rest h (ih _ (hn ▸ hlt) _ rfl)

/-- What holds at the end of a text, and of a lexeme and those after it whenever it holds of those
after it, holds of all lexemes from any cursor on. -/
theorem scan_induction {motive : Cursor → List Lexeme → Prop}
    (nil : ∀ cur : Cursor, cur.rest = [] → motive cur [])
    (cons : ∀ (cur : Cursor) (c : Char) (rest : List Char) (reading : Reading)
      (later : List Lexeme), cur.rest = c :: rest → Reads cur.atLineStart c rest reading →
      motive (after cur reading) later → motive cur (ofReading cur reading :: later))
    (cur : Cursor) : motive cur (scan cur) := by
  refine reading_induction (motive := fun cur => motive cur (scan cur)) ?_ ?_ cur
  · intro cur h
    rw [scan_of_rest_eq_nil h]
    exact nil cur h
  · intro cur c rest h ih
    rw [scan_of_rest_eq_cons h]
    exact cons cur c rest _ _ h (reads_read ..) ih

theorem sound_of_mem_scan {cur : Cursor} {lexeme : Lexeme} (h : lexeme ∈ scan cur) :
    Sound lexeme := by
  revert h
  refine scan_induction (motive := fun _ lexemes => lexeme ∈ lexemes → Sound lexeme) ?_ ?_ cur
  · intro cur _ h
    cases h
  · intro cur c rest reading later h hr ih hmem
    rcases List.mem_cons.mp hmem with rfl | hlater
    · exact sound_ofReading h hr
    · exact ih hlater

/-- **The lexemes together are the text.** -/
theorem flatMap_text_scan (cur : Cursor) : (scan cur).flatMap text = cur.rest := by
  refine scan_induction (motive := fun cur lexemes => lexemes.flatMap text = cur.rest) ?_ ?_ cur
  · intro cur h
    rw [h]
    rfl
  · intro cur c rest reading later h hr ih
    rw [List.flatMap_cons, ih, text_ofReading_append h hr]

/-- **Lexemes come in the order of the text and do not overlap.** -/
theorem ordered_scan (cur : Cursor) :
    (scan cur).Pairwise (fun earlier later => earlier.stop ≤ later.start)
      ∧ ∀ lexeme ∈ scan cur, cur.position ≤ lexeme.start := by
  refine scan_induction (motive := fun cur lexemes =>
    lexemes.Pairwise (fun earlier later => earlier.stop ≤ later.start)
      ∧ ∀ lexeme ∈ lexemes, cur.position ≤ lexeme.start) ?_ ?_ cur
  · intro cur _
    exact ⟨List.Pairwise.nil, by simp⟩
  · intro cur c rest reading later h hr ih
    obtain ⟨hpair, hafter⟩ := ih
    refine ⟨List.pairwise_cons.mpr ⟨hafter, hpair⟩, ?_⟩
    intro lexeme hmem
    rcases List.mem_cons.mp hmem with rfl | hlater
    · exact Position.le_refl _
    · -- the cursor behind the first lexeme stands where that lexeme stops
      exact Position.le_trans (sound_ofReading h hr).start_le (hafter lexeme hlater)

/-- No lexeme lies beyond the reach of the cursor that reads it. -/
theorem le_reach_of_mem_scan {cur : Cursor} {lexeme : Lexeme} (h : lexeme ∈ scan cur) :
    lexeme.start.line + lexeme.start.column ≤ cur.reach
      ∧ lexeme.stop.line + lexeme.stop.column ≤ cur.reach := by
  revert h
  refine scan_induction (motive := fun cur lexemes => lexeme ∈ lexemes →
    lexeme.start.line + lexeme.start.column ≤ cur.reach
      ∧ lexeme.stop.line + lexeme.stop.column ≤ cur.reach) ?_ ?_ cur
  · intro cur _ h
    cases h
  · intro cur c rest reading later _ _ ih hmem
    have hreach : (after cur reading).reach ≤ cur.reach :=
      Nat.le_trans (Cursor.reach_advanceBy_le _ _) (Cursor.reach_advanceBy_le _ _)
    rcases List.mem_cons.mp hmem with rfl | hlater
    · exact ⟨Nat.le_add_right _ _, Nat.le_trans (Nat.le_add_right _ _) hreach⟩
    · obtain ⟨hstart, hstop⟩ := ih hlater
      exact ⟨Nat.le_trans hstart hreach, Nat.le_trans hstop hreach⟩

end Nadesiko.Lexeme
