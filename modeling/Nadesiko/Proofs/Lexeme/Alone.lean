import Mathlib
import Nadesiko.Proofs.Lexeme.Words

/-!
# A stem that stands alone

Where a lexeme ends depends on what comes behind it: a particle, a keyword, a closing mark, a longer
operator. Take all that away and leave the stem, and the same is read again, up to the end and
without a particle.

There is one idea to it. Whatever is looked for inside of the stem is found there only if it was
found in the longer text too, since a beginning of less text is a beginning of more. So nothing ends
the stem any earlier than before. And what made it end where it did is not needed any more, because
the text ends there now.
-/

namespace Nadesiko.Lexeme

open Text Lexicon

/-! ## Looking ahead in less text -/

section less

variable {less more : List Char} (h : less <+: more)

include h

theorem particle?_eq_none_of_prefix (hnone : particle? more = none) : particle? less = none := by
  refine List.find?_eq_none.mpr ?_
  intro particle hmem hahead
  have hless : particle.toList <+: less := List.isPrefixOf_iff_prefix.mp hahead
  exact not_prefix_of_particle?_eq_none hnone particle hmem (hless.trans h)

theorem suffixAhead_of_prefix (hahead : Keyword.suffixAhead less = true) :
    Keyword.suffixAhead more = true := by
  obtain ⟨k, hmem, hless⟩ := List.any_eq_true.mp hahead
  have hmore := (List.isPrefixOf_iff_prefix.mp hless).trans h
  exact List.any_eq_true.mpr ⟨k, hmem, List.isPrefixOf_iff_prefix.mpr hmore⟩

theorem ahead?_eq_none_of_prefix (hnone : Operator.ahead? more = none) :
    Operator.ahead? less = none := by
  refine List.find?_eq_none.mpr ?_
  intro op _ hahead
  have hless : op.spelling.toList <+: less := List.isPrefixOf_iff_prefix.mp hahead
  exact not_prefix_of_ahead?_eq_none hnone op (hless.trans h)

theorem opensLineComment_of_prefix {c : Char} (hopens : opensLineComment c less = true) :
    opensLineComment c more = true := by
  obtain ⟨behind, rfl⟩ := h
  simp only [opensLineComment, Bool.or_eq_true, Bool.and_eq_true, beq_iff_eq] at hopens ⊢
  rcases hopens with hmark | ⟨hslash, hnext⟩
  · exact Or.inl hmark
  · exact Or.inr ⟨hslash, by rw [List.head?_append, hnext]; rfl⟩

theorem opensRangeComment_of_prefix {c : Char} (hopens : opensRangeComment c less = true) :
    opensRangeComment c more = true := by
  obtain ⟨behind, rfl⟩ := h
  simp only [opensRangeComment, Bool.and_eq_true, beq_iff_eq] at hopens ⊢
  exact ⟨hopens.1, by rw [List.head?_append, hopens.2]; rfl⟩

theorem noneNext_of_prefix {p : Char → Bool} (hnext : NoneNext p more) : NoneNext p less := by
  obtain ⟨behind, rfl⟩ := h
  intro c hc
  refine hnext c ?_
  rw [List.head?_append, Option.mem_def.mp hc]
  rfl

end less

/-! ## Lengths -/

/-- **Nothing ends a word earlier when its stem stands alone.** -/
theorem wordEnd_take (last : Char) (before rest : List Char) :
    wordEnd last before (rest.take (wordEnd last before rest).1)
      = ((wordEnd last before rest).1, none) := by
  fun_induction wordEnd last before rest with
  | case1 => rfl
  | case2 => rfl
  | case3 => rfl
  | case4 => rfl
  | case5 last before next rest hword hparticle hends more particle hmore ih =>
      rw [hmore] at ih
      have hless : next :: rest.take more <+: next :: rest :=
        (List.prefix_cons_inj next).mpr (List.take_prefix more rest)
      have hparticle' : (if allowsParticle last (last :: before) = true
          then particle? (next :: rest.take more) else none) = none := by
        split_ifs with hallows
        · rw [if_pos hallows] at hparticle
          exact particle?_eq_none_of_prefix hless hparticle
        · rfl
      have hends' : ¬ endsBefore last (last :: before) next (rest.take more) = true := by
        intro hstops
        apply hends
        simp only [endsBefore, Bool.or_eq_true, Bool.and_eq_true] at hstops ⊢
        rcases hstops with ⟨hlast, hahead⟩ | hkeyword
        · exact Or.inl ⟨hlast, suffixAhead_of_prefix hless hahead⟩
        · exact Or.inr hkeyword
      rw [List.take_succ_cons, wordEnd, if_neg hword, hparticle']
      dsimp only
      rw [if_neg hends', ih]

theorem lengthThrough_take (close rest : List Char) :
    lengthThrough close (rest.take (lengthThrough close rest)) = lengthThrough close rest := by
  induction rest with
  | nil => rfl
  | cons c rest ih =>
      rw [lengthThrough]
      split_ifs with hhere
      · have hstart := List.isPrefixOf_iff_prefix.mp hhere
        rw [← List.prefix_iff_eq_take.mp hstart]
        exact lengthThrough_of_startsWith List.prefix_rfl
      · have hnot : ¬ close.isPrefixOf (c :: rest.take (lengthThrough close rest)) = true := by
          intro hstart
          have hless : c :: rest.take (lengthThrough close rest) <+: c :: rest :=
            (List.prefix_cons_inj c).mpr (List.take_prefix _ rest)
          exact hhere (List.isPrefixOf_iff_prefix.mpr
            ((List.isPrefixOf_iff_prefix.mp hstart).trans hless))
        rw [List.take_succ_cons, lengthThrough, if_neg hnot, ih]

theorem lengthToLineEnd_take (rest : List Char) :
    lengthToLineEnd (rest.take (lengthToLineEnd rest)) = lengthToLineEnd rest := by
  unfold lengthToLineEnd
  rw [take_length_takeWhile, List.takeWhile_idem]

theorem fractionLength_take (rest : List Char) :
    fractionLength (rest.take (fractionLength rest)) = fractionLength rest := by
  cases rest with
  | nil => rfl
  | cons point rest =>
      rw [fractionLength]
      split_ifs with hpoint
      · rw [List.take_succ_cons, take_length_takeWhile, fractionLength, List.takeWhile_idem]
        exact if_pos hpoint
      · rfl

theorem numberLength_take (rest : List Char) :
    numberLength (rest.take (numberLength rest)) = numberLength rest := by
  have hsplit : rest.takeWhile isDigit ++ rest.dropWhile isDigit = rest :=
    List.takeWhile_append_dropWhile
  have hnext := noneNext_dropWhile isDigit rest
  have hdigits : ∀ c ∈ rest.takeWhile isDigit, isDigit c = true := fun c hc =>
    List.mem_takeWhile_imp hc
  have hlength : numberLength rest
      = (rest.takeWhile isDigit).length + fractionLength (rest.dropWhile isDigit) := by
    unfold numberLength
    dsimp only
    rw [drop_length_takeWhile]
  -- what is taken are the digits and the fraction
  have htake : rest.take (numberLength rest) = rest.takeWhile isDigit
      ++ (rest.dropWhile isDigit).take (fractionLength (rest.dropWhile isDigit)) := by
    nth_rewrite 2 [← hsplit]
    rw [hlength, List.take_length_add_append]
  have hnone := noneNext_of_prefix
    (List.take_prefix (fractionLength (rest.dropWhile isDigit)) (rest.dropWhile isDigit)) hnext
  rw [htake, hlength, numberLength, takeWhile_append_of_noneNext hdigits hnone, List.drop_left,
    fractionLength_take]

/-! ## What is read, by the first character -/

section reads

variable {atLineStart : Bool} {c : Char} {rest : List Char}

/-- The marks that something of its own starts with. -/
def ownMarks : List Char := '\n' :: '、' :: '。' :: '●' :: openingMarks

/-- Neither a word nor a number starts with any of them. -/
theorem guards_of_mem_ownMarks :
    ∀ mark ∈ ownMarks, startsWord mark = false ∧ isDigit mark = false := by
  have hall : ownMarks.all (fun mark => !startsWord mark && !isDigit mark) = true := by
    decide +kernel
  intro mark hmem
  simpa using List.all_eq_true.mp hall mark hmem

theorem read_of_isBlank (h : isBlank c = true) :
    read atLineStart c rest = .bare .blank 0 := by
  have hbreak : (c == '\n') = false := by
    rw [beq_eq_false_iff_ne]
    rintro rfl
    cases h
  simp only [read, hbreak, h, Bool.false_eq_true, if_false, if_true]

theorem read_comma : read atLineStart '、' rest = .bare .comma 0 := by
  have hword := (guards_of_mem_ownMarks '、' (by simp [ownMarks])).1
  simp [read, isBlank, hword]

theorem read_sentenceEnd : read atLineStart '。' rest = .bare .sentenceEnd 0 := by
  have hword := (guards_of_mem_ownMarks '。' (by simp [ownMarks])).1
  simp [read, isBlank, hword]

theorem read_definition : read atLineStart '●' rest = .bare .definition 0 := by
  obtain ⟨hword, hdigit⟩ := guards_of_mem_ownMarks '●' (by simp [ownMarks])
  simp [read, isBlank, hword, opensLineComment, opensRangeComment, opensPragma, stringMark?, hdigit]

theorem read_of_opensLineComment (h : opensLineComment c rest = true) :
    read atLineStart c rest = .bare .lineComment (lengthToLineEnd rest) := by
  obtain ⟨hbreak, hblank, hword, hcomma, hstop⟩ :=
    guards_of_mem_openingMarks (mem_openingMarks_of_opensLineComment h)
  simp only [read, hbreak, hblank, hword, hcomma, hstop, h, Bool.false_eq_true, if_false, if_true]

theorem read_of_opensRangeComment (h : opensRangeComment c rest = true) :
    read atLineStart c rest = readRangeComment rest.tail := by
  obtain ⟨hbreak, hblank, hword, hcomma, hstop⟩ :=
    guards_of_mem_openingMarks (mem_openingMarks_of_opensRangeComment h)
  have hline : opensLineComment c rest = false := by
    obtain ⟨rfl, body, rfl⟩ := exists_body_of_opensRangeComment h
    rfl
  simp only [read, hbreak, hblank, hword, hcomma, hstop, hline, h, Bool.false_eq_true, if_false,
    if_true]

theorem read_of_opensPragma (h : opensPragma c = true) :
    read true c rest = .bare .pragma (lengthToLineEnd rest) := by
  obtain ⟨hbreak, hblank, hword, hcomma, hstop⟩ :=
    guards_of_mem_openingMarks (mem_openingMarks_of_opensPragma h)
  obtain ⟨hline, hrange, _⟩ := guards_of_opensPragma h rest
  simp only [read, hbreak, hblank, hword, hcomma, hstop, hline, hrange, h, Bool.and_true,
    Bool.false_eq_true, if_false, if_true]

theorem read_of_stringMark? {shape : Shape} {close : Char}
    (h : stringMark? c = some (shape, close)) :
    read atLineStart c rest = .beforeParticle shape (lengthThrough [close] rest) rest := by
  obtain ⟨hbreak, hblank, hword, hcomma, hstop⟩ :=
    guards_of_mem_openingMarks (mem_openingMarks_of_stringMark? h)
  have hmark : ∀ {d : Char}, stringMark? d = none → c ≠ d := by
    rintro d hd rfl
    rw [hd] at h
    cases h
  have hline : opensLineComment c rest = false := by
    simp [opensLineComment, hmark (d := '#') rfl, hmark (d := '＃') rfl, hmark (d := '※') rfl,
      hmark (d := '/') rfl]
  have hrange : opensRangeComment c rest = false := by
    simp [opensRangeComment, hmark (d := '/') rfl]
  have hpragma : opensPragma c = false := by
    simp [opensPragma, hmark (d := '!') rfl, hmark (d := '！') rfl]
  simp only [read, hbreak, hblank, hword, hcomma, hstop, hline, hrange, hpragma, h,
    Bool.false_and, Bool.false_eq_true, if_false]

theorem read_of_isDigit (hg : isGapChar c = false) (h : isDigit c = true) :
    read atLineStart c rest = .beforeParticle .number (numberLength rest) rest := by
  have hne : ∀ mark ∈ ownMarks, (c == mark) = false := by
    intro mark hmem
    rw [beq_eq_false_iff_ne]
    rintro rfl
    rw [(guards_of_mem_ownMarks c hmem).2] at h
    cases h
  have hblank : isBlank c = false := (Bool.or_eq_false_iff.mp hg).2
  have hword : startsWord c = false := by simp [startsWord, h]
  simp only [ownMarks, openingMarks, List.forall_mem_cons] at hne
  simp [read, opensLineComment, opensRangeComment, opensPragma, stringMark?, hne, hblank, hword, h]

/-- What is read where only an operator is looked for. -/
def signReading : Option Operator → Reading
  | some op => .bare (.operator op) (op.spelling.length - 1)
  | none => .bare .unknown 0

theorem read_of_opensNothingElse (hg : isGapChar c = false)
    (he : opensNothingElse atLineStart c rest = true) (hown : c ∉ ['、', '。', '●']) :
    read atLineStart c rest = signReading (Operator.ahead? (c :: rest)) := by
  simp only [isGapChar, Bool.or_eq_false_iff] at hg
  simp only [opensNothingElse, Bool.and_eq_true, Bool.not_eq_true', Option.isNone_iff_eq_none]
    at he
  obtain ⟨⟨⟨⟨⟨hword, hline⟩, hrange⟩, hpragma⟩, hmark⟩, hdigit⟩ := he
  simp only [List.mem_cons, List.not_mem_nil, or_false, not_or] at hown
  simp only [read, hg, hword, hline, hrange, hpragma, hmark, hdigit, hown, beq_iff_eq,
    Bool.false_eq_true, if_false]
  cases Operator.ahead? (c :: rest) with
  | some op => rfl
  | none => rfl

end reads

/-! ## What is read again -/

theorem readRangeComment_take (body : List Char) :
    readRangeComment (body.take (lengthThrough commentClose body)) = readRangeComment body := by
  have hdoc := isDocumentation_iff (body.take (lengthThrough commentClose body))
  rw [lengthThrough_take, List.take_take, Nat.min_self, isDocumentation_iff, ← Bool.eq_iff_iff]
    at hdoc
  unfold readRangeComment
  rw [lengthThrough_take, hdoc]

theorem opensLineComment_take {c : Char} {rest : List Char} (h : opensLineComment c rest = true) :
    opensLineComment c (rest.take (lengthToLineEnd rest)) = true := by
  simp only [opensLineComment, Bool.or_eq_true, Bool.and_eq_true, beq_iff_eq] at h ⊢
  rcases h with hmark | ⟨hslash, hnext⟩
  · exact Or.inl hmark
  · obtain ⟨later, rfl⟩ := List.head?_eq_some_iff.mp hnext
    rw [lengthToLineEnd_cons (by decide), List.take_succ_cons]
    exact Or.inr ⟨hslash, rfl⟩

theorem opensNothingElse_of_prefix {atLineStart : Bool} {c : Char} {less more : List Char}
    (h : less <+: more) (he : opensNothingElse atLineStart c more = true) :
    opensNothingElse atLineStart c less = true := by
  have hline : opensLineComment c less = true → opensLineComment c more = true :=
    opensLineComment_of_prefix h
  have hrange : opensRangeComment c less = true → opensRangeComment c more = true :=
    opensRangeComment_of_prefix h
  simp only [opensNothingElse, Bool.and_eq_true, Bool.not_eq_true', ← Bool.not_eq_true] at he ⊢
  obtain ⟨⟨⟨⟨⟨hword, hl⟩, hr⟩, hpragma⟩, hmark⟩, hdigit⟩ := he
  exact ⟨⟨⟨⟨⟨hword, mt hline hl⟩, mt hrange hr⟩, hpragma⟩, hmark⟩, hdigit⟩

theorem ahead?_spelling (op : Operator) : Operator.ahead? op.spelling.toList = some op := by
  cases op <;> decide

/-- No operator starts with a mark that stands for itself. -/
theorem ahead?_eq_none_of_mem {c : Char} (hc : c ∈ ['、', '。', '●']) (rest : List Char) :
    Operator.ahead? (c :: rest) = none := by
  simp only [List.mem_cons, List.not_mem_nil, or_false] at hc
  rcases hc with rfl | rfl | rfl <;> rfl

theorem beforeParticle_take (shape : Shape) (more : Nat) (rest : List Char) :
    Reading.beforeParticle shape more (rest.take more) = .bare shape more := by
  rw [Reading.beforeParticle, List.drop_take_self]
  rfl

/-- **A stem that stands alone is read again, to its end and without a particle.** -/
theorem read_alone (c : Char) (rest : List Char) :
    read true c (rest.take (read true c rest).more)
      = .bare (read true c rest).shape (read true c rest).more := by
  have hreads := reads_read true c rest
  generalize hreading : read true c rest = reading at hreads ⊢
  cases hreads with
  | lineBreak hc => rw [hc]; rfl
  | blank hc => exact read_of_isBlank hc
  | word hg hc =>
      dsimp only
      rw [read_of_startsWord hc, wordReading, wordEnd_take]
      rfl
  | comma hg hc => rw [hc]; exact read_comma
  | sentenceEnd hg hc => rw [hc]; exact read_sentenceEnd
  | lineComment hg hc =>
      dsimp only [Reading.bare]
      rw [read_of_opensLineComment (opensLineComment_take hc), lengthToLineEnd_take]
      rfl
  | rangeComment hg hc =>
      obtain ⟨rfl, body, rfl⟩ := exists_body_of_opensRangeComment hc
      have hopens : opensRangeComment '/' ('*' :: body.take (lengthThrough commentClose body))
          = true := rfl
      have hagain : read true '/' ('*' :: body.take (lengthThrough commentClose body))
          = readRangeComment body := by
        rw [read_of_opensRangeComment hopens, List.tail_cons, readRangeComment_take]
      exact hagain
  | pragma hg hc hs =>
      dsimp only [Reading.bare]
      rw [read_of_opensPragma hc, lengthToLineEnd_take]
      rfl
  | string hg hc =>
      dsimp only [Reading.beforeParticle]
      rw [read_of_stringMark? hc, lengthThrough_take, beforeParticle_take]
  | number hg hc =>
      dsimp only [Reading.beforeParticle]
      rw [read_of_isDigit hg hc, numberLength_take, beforeParticle_take]
  | definition hg hc => rw [hc]; exact read_definition
  | @operator hg he op hc =>
      have hown : c ∉ ['、', '。', '●'] := by
        intro hmem
        rw [ahead?_eq_none_of_mem hmem] at hc
        cases hc
      have he' := opensNothingElse_of_prefix (List.take_prefix (op.spelling.length - 1) rest) he
      dsimp only [Reading.bare]
      rw [read_of_opensNothingElse hg he' hown, stem_of_ahead? hc, ahead?_spelling]
      rfl
  | unknown hg he hc =>
      have hown : c ∉ ['、', '。', '●'] := by
        intro hmem
        simp only [List.mem_cons, List.not_mem_nil, or_false] at hmem
        rcases hmem with rfl | rfl | rfl
        · rw [read_comma] at hreading
          cases hreading
        · rw [read_sentenceEnd] at hreading
          cases hreading
        · rw [read_definition] at hreading
          cases hreading
      have he' := opensNothingElse_of_prefix (List.take_prefix 0 rest) he
      have hless : c :: rest.take 0 <+: c :: rest :=
        (List.prefix_cons_inj c).mpr (List.take_prefix 0 rest)
      dsimp only [Reading.bare]
      rw [read_of_opensNothingElse hg he' hown, ahead?_eq_none_of_prefix hless hc]
      rfl

/-- Only for the mark of a pragma it matters where a line starts. -/
theorem read_eq_read_true {atLineStart : Bool} {c : Char}
    (h : opensPragma c = true → atLineStart = true) (rest : List Char) :
    read atLineStart c rest = read true c rest := by
  cases hc : opensPragma c with
  | true => rw [h hc]
  | false => simp only [read, hc, Bool.false_and]

/-! ## Lexemes that stand alone -/

theorem exists_reading_of_mem_scan {cur : Cursor} {lexeme : Lexeme} (h : lexeme ∈ scan cur) :
    ∃ (there : Cursor) (c : Char) (rest : List Char), there.rest = c :: rest
      ∧ lexeme = ofReading there (read there.atLineStart c rest) := by
  revert h
  refine reading_induction (motive := fun cur => lexeme ∈ scan cur → _) ?_ ?_ cur
  · intro cur hr hmem
    rw [scan_of_rest_eq_nil hr] at hmem
    cases hmem
  · intro cur c rest hr ih hmem
    rw [scan_of_rest_eq_cons hr] at hmem
    rcases List.mem_cons.mp hmem with hhere | hlater
    · exact ⟨cur, c, rest, hr, hhere⟩
    · exact ih hlater

/-- A text that is read to its end in one go is one lexeme. -/
theorem ofText_of_read {c : Char} {run : List Char} {shape : Shape}
    (h : read true c run = .bare shape run.length) :
    ∃ stop : Position, ofText (c :: run) = [⟨shape, c :: run, none, .zero, stop, stop⟩] := by
  have hrest : (Cursor.start (c :: run)).rest = c :: run := rfl
  have hread : read (Cursor.start (c :: run)).atLineStart c run = .bare shape run.length := h
  rw [ofText, scan_of_rest_eq_cons hrest, hread,
    scan_of_rest_eq_nil (text_ofReading_of_more_eq hrest rfl rfl).2]
  have hstem : (c :: run).take (run.length + 1) = c :: run := List.take_of_length_le (Nat.le_refl _)
  refine ⟨((Cursor.start (c :: run)).advanceBy (run.length + 1)).position, ?_⟩
  simp only [ofReading, Reading.bare, Cursor.rest_start, hstem]
  rfl

/-- **The stem of a lexeme is one lexeme of the same shape when it stands alone.** What starts with
the mark of a pragma without being one is left out, since it would be one at the start of a text. -/
theorem ofText_stem {text : List Char} {lexeme : Lexeme} (h : lexeme ∈ ofText text)
    (hpragma : lexeme.shape = .pragma ∨ ∀ c ∈ lexeme.stem.head?, opensPragma c = false) :
    ∃ stop : Position,
      ofText lexeme.stem = [⟨lexeme.shape, lexeme.stem, none, .zero, stop, stop⟩] := by
  obtain ⟨cur, c, rest, hr, rfl⟩ := exists_reading_of_mem_scan h
  have hreads := reads_read cur.atLineStart c rest
  have hstem : (ofReading cur (read cur.atLineStart c rest)).stem
      = c :: rest.take (read cur.atLineStart c rest).more := by
    rw [ofReading, hr, List.take_succ_cons]
  have hstart : opensPragma c = true → cur.atLineStart = true := by
    intro hc
    rcases hpragma with hshape | hfirst
    · exact (shape_eq_pragma_iff hc hreads).mp hshape
    · rw [hstem] at hfirst
      rw [hfirst c rfl] at hc
      cases hc
  have hle := more_le_of_reads hreads
  rw [hstem, ofReading]
  rw [read_eq_read_true hstart rest] at hle ⊢
  refine ofText_of_read ?_
  rw [List.length_take_of_le hle]
  exact read_alone c rest

end Nadesiko.Lexeme
