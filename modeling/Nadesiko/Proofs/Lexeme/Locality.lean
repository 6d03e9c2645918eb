import Mathlib
import Nadesiko.Proofs.Lexeme.Sight
import Nadesiko.Proofs.Text.Lines

/-!
# Continuing a text behind a line feed

What is read at a place is decided in sight, so a text that goes on behind a line feed is read as
before up to there. There are two exceptions. A carriage return at the end of the text would become
part of the line's end, and a string or a comment without a closing mark would go on looking for
one.

Behind the line feed nothing of what came before matters but the number of lines. Reading starts
over, further down.
-/

namespace Nadesiko

open Text Lexicon

/-- The position as many lines further down. -/
def Position.down (n : Nat) (p : Position) : Position := ⟨p.line + n, p.column⟩

namespace Text.Cursor

/-! ## Cursors in a longer text -/

/-- The same place when more text stands behind the end. -/
def extend (tail : List Char) (cur : Cursor) : Cursor := { cur with rest := cur.rest ++ tail }

section extend

variable {cur : Cursor} {tail : List Char}

theorem advance_extend (hne : cur.rest ≠ []) (hlast : cur.rest.getLast? ≠ some '\r') :
    (cur.extend tail).advance = cur.advance.extend tail := by
  obtain ⟨c, rest, hr⟩ := List.exists_cons_of_ne_nil hne
  have hlong : (cur.extend tail).rest = c :: (rest ++ tail) := by
    rw [extend, hr, List.cons_append]
  -- a carriage return is not the last character, so it is known what stands behind it
  have hnext : (c = '\r' ∧ (rest ++ tail).head? = some '\n')
      ↔ (c = '\r' ∧ rest.head? = some '\n') := by
    refine and_congr_right ?_
    rintro rfl
    cases rest with
    | nil => rw [hr] at hlast; exact absurd rfl hlast
    | cons d rest => rfl
  rw [advance_of_cons hlong, advance_of_cons hr]
  simp only [hnext]
  split_ifs <;> rfl

theorem getLast?_advance (hlast : cur.rest.getLast? ≠ some '\r') :
    cur.advance.rest.getLast? ≠ some '\r' := by
  rw [rest_advance]
  cases hr : cur.rest with
  | nil => simp
  | cons c rest =>
      rw [hr] at hlast
      intro htail
      rw [List.tail_cons] at htail
      cases rest with
      | nil => cases htail
      | cons d rest => exact hlast (by rw [List.getLast?_cons_cons, htail])

theorem getLast?_advanceBy (hlast : cur.rest.getLast? ≠ some '\r') (n : Nat) :
    (cur.advanceBy n).rest.getLast? ≠ some '\r' := by
  induction n generalizing cur with
  | zero => exact hlast
  | succ n ih => exact ih (getLast?_advance hlast)

theorem advanceBy_extend (hlast : cur.rest.getLast? ≠ some '\r') {n : Nat}
    (hn : n ≤ cur.rest.length) :
    (cur.extend tail).advanceBy n = (cur.advanceBy n).extend tail := by
  induction n generalizing cur with
  | zero => rfl
  | succ n ih =>
      have hne : cur.rest ≠ [] := List.length_pos_iff.mp (Nat.lt_of_lt_of_le n.succ_pos hn)
      rw [advanceBy, advanceBy, advance_extend hne hlast]
      apply ih (getLast?_advance hlast)
      rw [rest_advance, List.length_tail]
      omega

/-- The place at the end of the text. -/
def finish (cur : Cursor) : Cursor := cur.advanceBy cur.rest.length

theorem finish_advanceBy {n : Nat} (hn : n ≤ cur.rest.length) :
    (cur.advanceBy n).finish = cur.finish := by
  unfold finish
  rw [rest_advanceBy, List.length_drop, ← advanceBy_add, Nat.add_sub_cancel' hn]

end extend

/-! ## Cursors further down -/

/-- The same place when as many lines stand before the text. -/
def down (n : Nat) (cur : Cursor) : Cursor := { cur with position := cur.position.down n }

theorem advance_down (n : Nat) (cur : Cursor) : (cur.down n).advance = cur.advance.down n := by
  cases hr : cur.rest with
  | nil =>
      have hdown : (cur.down n).rest = [] := hr
      rw [advance_of_nil hr, advance_of_nil hdown]
  | cons c rest =>
      have hdown : (cur.down n).rest = c :: rest := hr
      rw [advance_of_cons hdown, advance_of_cons hr]
      split_ifs
      · simp [down, Position.down, Nat.add_right_comm]
      · rfl
      · rfl

theorem advanceBy_down (n : Nat) (cur : Cursor) (m : Nat) :
    (cur.down n).advanceBy m = (cur.advanceBy m).down n := by
  induction m generalizing cur with
  | zero => rfl
  | succ m ih => rw [advanceBy, advanceBy, advance_down, ih]

end Text.Cursor

namespace Lexeme

/-! ## One reading in a longer text -/

theorem sight_append_newline (rest later : List Char) :
    sight (rest ++ '\n' :: later) = sight rest := by
  induction rest with
  | nil => rfl
  | cons c rest ih =>
      rw [List.cons_append]
      cases hc : Cursor.breaksLine c with
      | true => rw [sight_cons_of_breaks hc, sight_cons_of_breaks hc]
      | false => rw [sight_cons hc, sight_cons hc, ih]

theorem isPrefixOf_append_newline {mark : List Char}
    (hmark : ∀ c ∈ mark, Cursor.breaksLine c = false) (rest later : List Char) :
    mark.isPrefixOf (rest ++ '\n' :: later) = mark.isPrefixOf rest := by
  rw [← isPrefixOf_sight hmark, sight_append_newline, isPrefixOf_sight hmark]

theorem lengthToLineEnd_append_newline (rest later : List Char) :
    lengthToLineEnd (rest ++ '\n' :: later) = lengthToLineEnd rest := by
  induction rest with
  | nil => rfl
  | cons c rest ih =>
      rw [List.cons_append]
      by_cases hc : c = '\n'
      · rw [hc, lengthToLineEnd_cons_newline, lengthToLineEnd_cons_newline]
      · rw [lengthToLineEnd_cons hc, lengthToLineEnd_cons hc, ih]

/-- A closing mark that is there is found in the same place. -/
theorem lengthThrough_append_newline {close : List Char}
    (hclose : ∀ c ∈ close, Cursor.breaksLine c = false) {rest : List Char} (h : close <:+: rest)
    (later : List Char) :
    lengthThrough close (rest ++ '\n' :: later) = lengthThrough close rest := by
  induction rest with
  | nil =>
      rw [List.infix_nil.mp h]
      rfl
  | cons c rest ih =>
      have hprefix := isPrefixOf_append_newline hclose (c :: rest) later
      rw [List.cons_append] at hprefix ⊢
      rw [lengthThrough, lengthThrough, hprefix]
      by_cases hp : close.isPrefixOf (c :: rest) = true
      · rw [if_pos hp, if_pos hp]
      · rw [if_neg hp, if_neg hp]
        rcases List.infix_cons_iff.mp h with hhead | htail
        · exact absurd (List.isPrefixOf_iff_prefix.mpr hhead) hp
        · rw [ih htail]

/-- A closing mark that is missing is looked for up to the end. -/
theorem lengthThrough_eq_length {close rest : List Char} (h : ¬ close <:+: rest) :
    lengthThrough close rest = rest.length := by
  induction rest with
  | nil => rfl
  | cons c rest ih =>
      have hp : ¬ close.isPrefixOf (c :: rest) = true := fun hp =>
        h (List.isPrefixOf_iff_prefix.mp hp).isInfix
      rw [lengthThrough, if_neg hp, ih (fun hin => h (List.infix_cons hin)), List.length_cons]

/-- The marks that open and close a stretch of text. -/
def Shape.marks : Shape → List (List Char × List Char)
  | .string => [(['「'], ['」']), (['『'], ['』'])]
  | .template => [(['"'], ['"']), (['“'], ['”'])]
  | .rangeComment => [(['/', '*'], ['*', '/'])]
  | .docComment => [(['/', '*'], ['*', '/'])]
  | _ => []

/-- A lexeme whose closing mark is missing. -/
def Unclosed (lexeme : Lexeme) : Prop :=
  ∃ marks ∈ lexeme.shape.marks, marks.1 <+: lexeme.text
    ∧ ¬ marks.2 <:+: lexeme.text.drop marks.1.length

section reading

variable {cur : Cursor} {c : Char} {rest : List Char}

theorem mem_marks_of_stringMark? {close : Char} {shape : Shape}
    (h : stringMark? c = some (shape, close)) : ([c], [close]) ∈ shape.marks := by
  unfold stringMark? at h
  split_ifs at h with h₁ h₂ h₃ h₄
  · cases h; rw [beq_iff_eq.mp h₁]; decide
  · cases h; rw [beq_iff_eq.mp h₂]; decide
  · cases h; rw [beq_iff_eq.mp h₃]; decide
  · cases h; rw [beq_iff_eq.mp h₄]; decide

theorem mem_marks_readRangeComment (body : List Char) :
    (['/', '*'], commentClose) ∈ (readRangeComment body).shape.marks := by
  dsimp only [readRangeComment, Reading.bare]
  split <;> exact List.mem_singleton.mpr rfl

/-- What takes all that is left stops at the end of the text. -/
theorem text_ofReading_of_more_eq (hr : cur.rest = c :: rest) {reading : Reading}
    (hmore : reading.more = rest.length) (hp : reading.particle = none) :
    (ofReading cur reading).text = cur.rest ∧ (after cur reading).rest = [] := by
  have hlength : reading.more + 1 = cur.rest.length := by rw [hmore, hr, List.length_cons]
  refine ⟨?_, ?_⟩
  · simp [ofReading, text, particleChars, hp, hlength]
  · rw [after, Cursor.rest_advanceBy, Cursor.rest_advanceBy, hlength, List.drop_length,
      List.drop_nil]

/-- **Behind a line feed the text may go on, and the same is read before it, unless a closing mark
is missing.** -/
theorem read_append_newline (hr : cur.rest = c :: rest) (later : List Char) :
    read cur.atLineStart c (rest ++ '\n' :: later) = read cur.atLineStart c rest
      ∨ (ofReading cur (read cur.atLineStart c rest)).Unclosed
        ∧ (after cur (read cur.atLineStart c rest)).rest = [] := by
  rw [read_eq_extent _ _ rest, read_eq_extent _ _ (rest ++ _), sight_append_newline]
  cases hextent : extent cur.atLineStart c (sight rest) with
  | near reading => exact Or.inl rfl
  | line shape =>
      left
      dsimp only [Extent.reading]
      rw [lengthToLineEnd_append_newline]
  | comment =>
      have hopens := opensRangeComment_of_extent_eq_comment hextent
      rw [opensRangeComment_sight] at hopens
      obtain ⟨rfl, body, rfl⟩ := exists_body_of_opensRangeComment hopens
      dsimp only [Extent.reading]
      rw [List.cons_append, List.tail_cons, List.tail_cons]
      by_cases hclosed : commentClose <:+: body
      · left
        rw [readRangeComment_sight, sight_append_newline, readRangeComment_sight body,
          lengthThrough_append_newline not_breaksLine_of_mem_commentClose hclosed]
      · right
        have hmore : (readRangeComment body).more = ('*' :: body).length := by
          dsimp only [readRangeComment, Reading.bare]
          rw [lengthThrough_eq_length hclosed, List.length_cons]
        obtain ⟨htext, hend⟩ := text_ofReading_of_more_eq hr hmore rfl
        refine ⟨⟨_, mem_marks_readRangeComment body, ?_, ?_⟩, hend⟩
        · rw [htext, hr]
          exact ⟨body, rfl⟩
        · rw [htext, hr]
          exact hclosed
  | string shape close =>
      have hmark := stringMark?_of_extent_eq_string hextent
      have hclose : ∀ d ∈ [close], Cursor.breaksLine d = false :=
        List.forall_mem_singleton.mpr (not_breaksLine_of_stringMark? hmark)
      dsimp only [Extent.reading]
      by_cases hclosed : [close] <:+: rest
      · left
        have hle := lengthThrough_le_length [close] rest
        rw [Reading.beforeParticle, Reading.beforeParticle,
          lengthThrough_append_newline hclose hclosed, List.drop_append_of_le_length hle,
          ← particle?_sight, sight_append_newline, particle?_sight]
      · right
        have hmore := lengthThrough_eq_length hclosed
        have hnone : particle? [] = none := by decide
        have hp : (Reading.beforeParticle shape (lengthThrough [close] rest) rest).particle
            = none := by
          rw [Reading.beforeParticle, hmore, List.drop_length, hnone]
        obtain ⟨htext, hend⟩ := text_ofReading_of_more_eq hr hmore hp
        refine ⟨⟨_, mem_marks_of_stringMark? hmark, ?_, ?_⟩, hend⟩
        · rw [htext, hr]
          exact ⟨rest, rfl⟩
        · rw [htext, hr]
          exact hclosed

theorem length_le_of_reads {reading : Reading} (hr : cur.rest = c :: rest)
    (hreads : Reads cur.atLineStart c rest reading) :
    reading.more + 1 ≤ cur.rest.length
      ∧ reading.particleLength ≤ (cur.advanceBy (reading.more + 1)).rest.length := by
  refine ⟨?_, ?_⟩
  · rw [hr, List.length_cons]
    exact Nat.succ_le_succ (more_le_of_reads hreads)
  · cases hp : reading.particle with
    | none => rw [Reading.particleLength, hp]; exact Nat.zero_le _
    | some particle =>
        obtain ⟨_, later, hlater⟩ := rest_eq_particle_append hr hreads hp
        rw [particleLength_eq hp, hlater, List.length_append]
        exact Nat.le_add_right _ _

theorem ofReading_extend {reading : Reading} (hr : cur.rest = c :: rest)
    (hreads : Reads cur.atLineStart c rest reading) (hlast : cur.rest.getLast? ≠ some '\r')
    (tail : List Char) :
    ofReading (cur.extend tail) reading = ofReading cur reading
      ∧ after (cur.extend tail) reading = (after cur reading).extend tail := by
  obtain ⟨hstem, hparticle⟩ := length_le_of_reads hr hreads
  have hadvance : (cur.extend tail).advanceBy (reading.more + 1)
      = (cur.advanceBy (reading.more + 1)).extend tail := Cursor.advanceBy_extend hlast hstem
  have hafter : after (cur.extend tail) reading = (after cur reading).extend tail := by
    rw [after, hadvance, Cursor.advanceBy_extend (Cursor.getLast?_advanceBy hlast _) hparticle]
    rfl
  refine ⟨?_, hafter⟩
  unfold ofReading
  rw [hafter, hadvance]
  dsimp only [Cursor.extend]
  rw [List.take_append_of_le_length hstem]

end reading

/-! ## All lexemes of a longer text -/

/-- **What stands behind a line feed does not change the lexemes before it.** -/
theorem scan_extend {cur : Cursor} (hlast : cur.rest.getLast? ≠ some '\r')
    (hclosed : ∀ lexeme ∈ (scan cur).getLast?, ¬ lexeme.Unclosed) (later : List Char) :
    scan (cur.extend ('\n' :: later)) = scan cur ++ scan (cur.finish.extend ('\n' :: later)) := by
  revert hlast hclosed
  refine reading_induction (motive := fun cur => cur.rest.getLast? ≠ some '\r' →
    (∀ lexeme ∈ (scan cur).getLast?, ¬ lexeme.Unclosed) →
      scan (cur.extend ('\n' :: later)) = scan cur ++ scan (cur.finish.extend ('\n' :: later)))
    ?_ ?_ cur
  · intro cur hnil _ _
    have hfinish : cur.finish = cur := by rw [Cursor.finish, hnil]; rfl
    rw [scan_of_rest_eq_nil hnil, hfinish, List.nil_append]
  · intro cur c rest hr ih hlast hclosed
    have hreads := reads_read cur.atLineStart c rest
    have hlong : (cur.extend ('\n' :: later)).rest = c :: (rest ++ '\n' :: later) := by
      rw [Cursor.extend, hr, List.cons_append]
    have hscan := scan_of_rest_eq_cons hr
    have hlonger := scan_of_rest_eq_cons hlong
    rw [show (cur.extend ('\n' :: later)).atLineStart = cur.atLineStart from rfl] at hlonger
    rcases read_append_newline hr later with hsame | ⟨hopen, hend⟩
    · rw [hsame] at hlonger
      generalize read cur.atLineStart c rest = reading at *
      obtain ⟨hread, hafter⟩ := ofReading_extend hr hreads hlast ('\n' :: later)
      obtain ⟨hstem, hparticle⟩ := length_le_of_reads hr hreads
      have hfinish : (after cur reading).finish = cur.finish := by
        rw [after, Cursor.finish_advanceBy hparticle, Cursor.finish_advanceBy hstem]
      have hlast' : (after cur reading).rest.getLast? ≠ some '\r' :=
        Cursor.getLast?_advanceBy (Cursor.getLast?_advanceBy hlast _) _
      have hclosed' : ∀ lexeme ∈ (scan (after cur reading)).getLast?, ¬ lexeme.Unclosed := by
        intro lexeme hmem
        apply hclosed
        rw [hscan]
        exact List.mem_getLast?_cons hmem
      rw [hlonger, hread, hafter, ih hlast' hclosed', hfinish, hscan, List.cons_append]
    · -- without its closing mark the lexeme takes all that is left, so it is the last one
      rw [hscan, scan_of_rest_eq_nil hend] at hclosed
      exact absurd hopen (hclosed _ rfl)

/-! ## All lexemes further down -/

/-- The lexeme as many lines further down. -/
def down (n : Nat) (lexeme : Lexeme) : Lexeme :=
  { lexeme with
    start := lexeme.start.down n
    stemStop := lexeme.stemStop.down n
    stop := lexeme.stop.down n }

theorem after_down (n : Nat) (cur : Cursor) (reading : Reading) :
    after (cur.down n) reading = (after cur reading).down n := by
  rw [after, Cursor.advanceBy_down, Cursor.advanceBy_down]
  rfl

theorem ofReading_down (n : Nat) (cur : Cursor) (reading : Reading) :
    ofReading (cur.down n) reading = (ofReading cur reading).down n := by
  unfold ofReading
  rw [after_down, Cursor.advanceBy_down]
  rfl

/-- **Lines before a text only move its lexemes down.** -/
theorem scan_down (n : Nat) (cur : Cursor) : scan (cur.down n) = (scan cur).map (down n) := by
  refine reading_induction (motive := fun cur => scan (cur.down n) = (scan cur).map (down n))
    ?_ ?_ cur
  · intro cur hnil
    have hdown : (cur.down n).rest = [] := hnil
    rw [scan_of_rest_eq_nil hnil, scan_of_rest_eq_nil hdown]
    rfl
  · intro cur c rest hr ih
    have hdown : (cur.down n).rest = c :: rest := hr
    have hstart : (cur.down n).atLineStart = cur.atLineStart := rfl
    rw [scan_of_rest_eq_cons hr, scan_of_rest_eq_cons hdown, hstart, ofReading_down, after_down, ih,
      List.map_cons]

/-! ## Two texts with a line feed between them -/

theorem finish_start (text : List Char) :
    (Cursor.start text).finish.rest = []
      ∧ (Cursor.start text).finish.position.line = text.count '\n' := by
  unfold Cursor.finish
  refine ⟨?_, ?_⟩
  · rw [Cursor.rest_advanceBy, List.drop_length]
  · rw [position_advanceBy_place (position_start_place text), Cursor.rest_start, List.nil_append,
      List.take_length]
    rfl

/-- Behind a line feed reading starts over. -/
theorem scan_finish_extend (text later : List Char) :
    ∃ lineBreak : Lexeme, lineBreak.shape = .lineBreak
      ∧ scan ((Cursor.start text).finish.extend ('\n' :: later))
        = lineBreak :: (ofText later).map (down (text.count '\n' + 1)) := by
  obtain ⟨hrest, hline⟩ := finish_start text
  generalize (Cursor.start text).finish = cur at *
  have hlong : (cur.extend ('\n' :: later)).rest = '\n' :: later := by
    rw [Cursor.extend, hrest, List.nil_append]
  have hread : read cur.atLineStart '\n' later = .bare .lineBreak 0 := rfl
  have hafter : after (cur.extend ('\n' :: later)) (.bare .lineBreak 0)
      = (Cursor.start later).down (text.count '\n' + 1) := by
    rw [after_bare_zero, Cursor.advance_of_cons hlong, if_pos rfl]
    simp [Cursor.extend, Cursor.start, Cursor.down, Position.down, Position.zero, hline]
  refine ⟨ofReading (cur.extend ('\n' :: later)) (.bare .lineBreak 0), rfl, ?_⟩
  rw [scan_of_rest_eq_cons hlong]
  rw [show (cur.extend ('\n' :: later)).atLineStart = cur.atLineStart from rfl, hread, hafter,
    scan_down]
  rfl

/-- **The lexemes of two texts with a line feed between them are those of the one and those of the
other further down.** -/
theorem ofText_append_newline {text : List Char} (hlast : text.getLast? ≠ some '\r')
    (hclosed : ∀ lexeme ∈ (ofText text).getLast?, ¬ lexeme.Unclosed) (later : List Char) :
    ∃ lineBreak : Lexeme, lineBreak.shape = .lineBreak
      ∧ ofText (text ++ '\n' :: later)
        = ofText text ++ lineBreak :: (ofText later).map (down (text.count '\n' + 1)) := by
  obtain ⟨lineBreak, hshape, hlater⟩ := scan_finish_extend text later
  refine ⟨lineBreak, hshape, ?_⟩
  rw [← hlater]
  exact scan_extend hlast hclosed later

end Lexeme

end Nadesiko
