import Mathlib
import Nadesiko.Proofs.Lexeme.Scan

/-!
# How far reading looks

Reading looks ahead: for a particle, for a keyword, for the second sign of an operator. None of this
contains a part of a line's end, so it is found in what stands before the next line feed or carriage
return, the `sight`. Only three things go on beyond it, and they are told apart within sight: what
ends with its line, a comment with a closing mark, and a string. `read_eq_extent` cuts reading into
these two halves, what is decided in sight and how far it then goes.
-/

namespace Nadesiko.Lexeme

open Text Lexicon

/-- A text up to the first part of a line's end. -/
def sight (rest : List Char) : List Char := rest.takeWhile (fun c => !Cursor.breaksLine c)

theorem sight_cons_of_breaks {c : Char} (h : Cursor.breaksLine c = true) (rest : List Char) :
    sight (c :: rest) = [] := by
  simp [sight, h]

theorem sight_cons {c : Char} (h : Cursor.breaksLine c = false) (rest : List Char) :
    sight (c :: rest) = c :: sight rest := by
  simp [sight, h]

theorem not_breaksLine_of_mem_sight {c : Char} {rest : List Char} (h : c ∈ sight rest) :
    Cursor.breaksLine c = false := by
  simpa using List.mem_takeWhile_imp h

/-- What neither part of a line's end satisfies, no part of a line's end satisfies. -/
theorem eq_false_of_breaksLine {p : Char → Bool} (hfeed : p '\n' = false) (hreturn : p '\r' = false)
    {c : Char} (h : Cursor.breaksLine c = true) : p c = false := by
  rcases Bool.or_eq_true .. ▸ h with hc | hc
  · rw [beq_iff_eq.mp hc, hfeed]
  · rw [beq_iff_eq.mp hc, hreturn]

theorem take_sight {rest : List Char} {n : Nat} (h : n ≤ (sight rest).length) :
    (sight rest).take n = rest.take n := by
  have hsplit : sight rest ++ rest.dropWhile (fun c => !Cursor.breaksLine c) = rest :=
    List.takeWhile_append_dropWhile
  nth_rewrite 2 [← hsplit]
  rw [List.take_append_of_le_length h]

/-- In sight, a text and its sight can be cut in the same place. -/
theorem drop_sight {rest : List Char} {n : Nat} (h : n ≤ (sight rest).length) :
    (sight rest).drop n = sight (rest.drop n) := by
  induction n generalizing rest with
  | zero => rfl
  | succ n ih =>
      cases rest with
      | nil => rfl
      | cons c rest =>
          cases hc : Cursor.breaksLine c with
          | true =>
              rw [sight_cons_of_breaks hc] at h
              cases h
          | false =>
              rw [sight_cons hc] at h ⊢
              exact ih (Nat.le_of_succ_le_succ h)

/-! ## Looking ahead as far as a property holds -/

theorem isPrefixOf_takeWhile {p : Char → Bool} {mark : List Char}
    (hmark : ∀ c ∈ mark, p c = true) (rest : List Char) :
    mark.isPrefixOf (rest.takeWhile p) = mark.isPrefixOf rest := by
  induction mark generalizing rest with
  | nil => rw [List.isPrefixOf_nil_left, List.isPrefixOf_nil_left]
  | cons c mark ih =>
      obtain ⟨hc, hmore⟩ := List.forall_mem_cons.mp hmark
      cases rest with
      | nil => rfl
      | cons d rest =>
          cases hd : p d with
          | true =>
              rw [List.takeWhile_cons_of_pos hd, List.isPrefixOf_cons_cons,
                List.isPrefixOf_cons_cons, ih hmore]
          | false =>
              have hne : (c == d) = false := by
                rw [beq_eq_false_iff_ne]
                rintro rfl
                rw [hc] at hd
                cases hd
              rw [List.takeWhile_cons_of_neg (by simp [hd]), List.isPrefixOf_cons_cons, hne]
              rfl

theorem isWordChar_of_mem_particles :
    ∀ particle ∈ particles, ∀ c ∈ particle.toList, isWordChar c = true := by
  have hall : particles.all (fun particle => particle.toList.all isWordChar) = true := by
    decide +kernel
  intro particle hmem
  exact List.all_eq_true.mp (List.all_eq_true.mp hall particle hmem)

theorem isWordChar_of_mem_suffixes :
    ∀ k ∈ Keyword.suffixes, ∀ c ∈ k.name.toList, isWordChar c = true := by
  have hall : Keyword.suffixes.all (fun k => k.name.toList.all isWordChar) = true := by
    decide +kernel
  intro k hmem
  exact List.all_eq_true.mp (List.all_eq_true.mp hall k hmem)

section takeWhile

variable {p : Char → Bool} (hp : ∀ c, isWordChar c = true → p c = true)
include hp

theorem particle?_takeWhile (rest : List Char) :
    particle? (rest.takeWhile p) = particle? rest := by
  unfold particle?
  refine List.find?_congr ?_
  intro particle hmem
  refine isPrefixOf_takeWhile ?_ rest
  intro c hc
  exact hp c (isWordChar_of_mem_particles particle hmem c hc)

theorem suffixAhead_takeWhile (rest : List Char) :
    Keyword.suffixAhead (rest.takeWhile p) = Keyword.suffixAhead rest := by
  unfold Keyword.suffixAhead
  rw [Bool.eq_iff_iff, List.any_eq_true, List.any_eq_true]
  refine exists_congr fun k => and_congr_right fun hmem => ?_
  rw [isPrefixOf_takeWhile]
  intro c hc
  exact hp c (isWordChar_of_mem_suffixes k hmem c hc)

/-- The end of a word is found among the word characters that come next. -/
theorem wordEnd_takeWhile (last : Char) (before rest : List Char) :
    wordEnd last before (rest.takeWhile p) = wordEnd last before rest := by
  induction rest generalizing last before with
  | nil => rfl
  | cons next rest ih =>
      cases hnext : p next with
      | false =>
          have hchar : isWordChar next = false := by
            rw [← Bool.not_eq_true]
            intro hword
            rw [hp next hword] at hnext
            cases hnext
          rw [List.takeWhile_cons_of_neg (by simp [hnext]), wordEnd, wordEnd, hchar]
          rfl
      | true =>
          have hparticle := particle?_takeWhile hp (next :: rest)
          have hsuffix := suffixAhead_takeWhile hp (next :: rest)
          rw [List.takeWhile_cons_of_pos hnext] at hparticle hsuffix ⊢
          rw [wordEnd, wordEnd, hparticle, endsBefore, endsBefore, hsuffix, ih]

end takeWhile

/-! ## What is looked for is in sight -/

theorem not_breaksLine_of_isWordChar (c : Char) (h : isWordChar c = true) :
    (!Cursor.breaksLine c) = true := by
  rw [Bool.not_eq_true', ← Bool.not_eq_true]
  intro hbreaks
  have hnone : isWordChar c = false :=
    eq_false_of_breaksLine (by decide +kernel) (by decide +kernel) hbreaks
  rw [hnone] at h
  cases h

theorem isPrefixOf_sight {mark : List Char} (hmark : ∀ c ∈ mark, Cursor.breaksLine c = false)
    (rest : List Char) : mark.isPrefixOf (sight rest) = mark.isPrefixOf rest := by
  refine isPrefixOf_takeWhile ?_ rest
  intro c hc
  rw [hmark c hc]
  rfl

theorem head?_sight {c : Char} (hc : Cursor.breaksLine c = false) (rest : List Char) :
    ((sight rest).head? == some c) = (rest.head? == some c) := by
  cases rest with
  | nil => rfl
  | cons d rest =>
      cases hd : Cursor.breaksLine d with
      | false => rw [sight_cons hd]; rfl
      | true =>
          have hne : d ≠ c := by
            rintro rfl
            rw [hc] at hd
            cases hd
          rw [sight_cons_of_breaks hd]
          simp [hne]

theorem particle?_sight (rest : List Char) : particle? (sight rest) = particle? rest :=
  particle?_takeWhile not_breaksLine_of_isWordChar rest

theorem ahead?_sight (rest : List Char) : Operator.ahead? (sight rest) = Operator.ahead? rest := by
  have hall : ∀ op ∈ Operator.all, op.spelling.toList.all (fun c => !Cursor.breaksLine c) = true :=
    by decide
  unfold Operator.ahead?
  refine List.find?_congr ?_
  intro op hmem
  refine isPrefixOf_sight ?_ rest
  intro c hc
  simpa using List.all_eq_true.mp (hall op hmem) c hc

/-- A word ends before the end of its line. -/
theorem wordEnd_sight (last : Char) (before rest : List Char) :
    wordEnd last before (sight rest) = wordEnd last before rest :=
  wordEnd_takeWhile not_breaksLine_of_isWordChar last before rest

theorem takeWhile_isDigit_sight (rest : List Char) :
    (sight rest).takeWhile isDigit = rest.takeWhile isDigit := by
  induction rest with
  | nil => rfl
  | cons c rest ih =>
      cases hc : Cursor.breaksLine c with
      | true =>
          have hdigit : isDigit c = false := eq_false_of_breaksLine (by decide) (by decide) hc
          rw [sight_cons_of_breaks hc, List.takeWhile_cons_of_neg (by simp [hdigit])]
          rfl
      | false =>
          rw [sight_cons hc, List.takeWhile_cons, List.takeWhile_cons, ih]

theorem fractionLength_sight (rest : List Char) :
    fractionLength (sight rest) = fractionLength rest := by
  cases rest with
  | nil => rfl
  | cons point rest =>
      cases hpoint : Cursor.breaksLine point with
      | false =>
          rw [sight_cons hpoint, fractionLength, fractionLength, takeWhile_isDigit_sight]
      | true =>
          have hno : isPoint point = false := eq_false_of_breaksLine (by decide) (by decide) hpoint
          rw [sight_cons_of_breaks hpoint, fractionLength, fractionLength, hno]
          rfl

/-- A number ends before the end of its line. -/
theorem numberLength_sight (rest : List Char) :
    numberLength (sight rest) = numberLength rest := by
  have hle : (rest.takeWhile isDigit).length ≤ (sight rest).length := by
    rw [← takeWhile_isDigit_sight]
    exact (List.takeWhile_prefix isDigit).length_le
  unfold numberLength
  dsimp only
  rw [takeWhile_isDigit_sight, drop_sight hle, fractionLength_sight]

theorem opensLineComment_sight (c : Char) (rest : List Char) :
    opensLineComment c (sight rest) = opensLineComment c rest := by
  unfold opensLineComment
  rw [head?_sight (by decide)]

theorem opensRangeComment_sight (c : Char) (rest : List Char) :
    opensRangeComment c (sight rest) = opensRangeComment c rest := by
  unfold opensRangeComment
  rw [head?_sight (by decide)]

theorem exists_body_of_opensRangeComment {c : Char} {rest : List Char}
    (h : opensRangeComment c rest = true) : c = '/' ∧ ∃ body, rest = '*' :: body := by
  simp only [opensRangeComment, Bool.and_eq_true, beq_iff_eq] at h
  exact ⟨h.1, List.head?_eq_some_iff.mp h.2⟩

theorem not_breaksLine_of_mem_commentClose : ∀ c ∈ commentClose, Cursor.breaksLine c = false := by
  simp [commentClose, Cursor.breaksLine]

/-- Whether a comment is documentation is decided in sight, and only its end may be beyond. -/
theorem readRangeComment_sight (body : List Char) :
    readRangeComment body
      = .bare (readRangeComment (sight body)).shape (lengthThrough commentClose body + 1) := by
  unfold readRangeComment
  rw [head?_sight (by decide), isPrefixOf_sight not_breaksLine_of_mem_commentClose]
  rfl

theorem lengthToLineEnd_cons_newline (rest : List Char) : lengthToLineEnd ('\n' :: rest) = 0 := rfl

theorem lengthToLineEnd_cons {c : Char} (h : c ≠ '\n') (rest : List Char) :
    lengthToLineEnd (c :: rest) = lengthToLineEnd rest + 1 := by
  simp [lengthToLineEnd, h]

/-! ## Nothing is read beyond the end of the text -/

theorem wordEnd_le_length (last : Char) (before rest : List Char) :
    (wordEnd last before rest).1 ≤ rest.length := by
  fun_induction wordEnd last before rest with
  | case1 => exact Nat.le_refl _
  | case2 => exact Nat.zero_le _
  | case3 => exact Nat.zero_le _
  | case4 => exact Nat.zero_le _
  | case5 last before next rest _ _ _ more particle hmore ih =>
      rw [hmore] at ih
      exact Nat.succ_le_succ ih

theorem lengthThrough_le_length (close rest : List Char) :
    lengthThrough close rest ≤ rest.length := by
  induction rest with
  | nil => exact Nat.le_refl _
  | cons c rest ih =>
      rw [lengthThrough]
      split
      · next h => exact (List.isPrefixOf_iff_prefix.mp h).length_le
      · exact Nat.succ_le_succ ih

theorem numberLength_le_length (rest : List Char) : numberLength rest ≤ rest.length := by
  have hfraction : ∀ later : List Char, fractionLength later ≤ later.length := by
    intro later
    cases later with
    | nil => exact Nat.le_refl _
    | cons point later =>
        have := (List.takeWhile_prefix (l := later) isDigit).length_le
        rw [fractionLength]
        split <;> simp only [List.length_cons] <;> omega
  have hdigits := (List.takeWhile_prefix (l := rest) isDigit).length_le
  have hmore := hfraction (rest.drop (rest.takeWhile isDigit).length)
  rw [List.length_drop] at hmore
  unfold numberLength
  dsimp only
  omega

theorem more_le_of_reads {atLineStart : Bool} {c : Char} {rest : List Char} {reading : Reading}
    (h : Reads atLineStart c rest reading) : reading.more ≤ rest.length := by
  cases h with
  | word => exact wordEnd_le_length c [] rest
  | lineComment => exact (List.takeWhile_prefix (l := rest) _).length_le
  | pragma => exact (List.takeWhile_prefix (l := rest) _).length_le
  | rangeComment hg hc =>
      obtain ⟨_, body, rfl⟩ := exists_body_of_opensRangeComment hc
      exact Nat.succ_le_succ (lengthThrough_le_length commentClose body)
  | string hg hc => exact lengthThrough_le_length _ rest
  | number => exact numberLength_le_length rest
  | operator hg he hc =>
      have hle := (Operator.spelling_of_ahead? hc).length_le
      rw [String.length_toList, List.length_cons] at hle
      exact Nat.sub_le_of_le_add hle
  | _ => exact Nat.zero_le _

/-! ## What is decided in sight -/

/-- How far a stretch of text reaches, as far as it can be told in sight. -/
inductive Extent where
  /-- All of it is in sight. -/
  | near (reading : Reading)
  /-- It ends with its line. -/
  | line (shape : Shape)
  /-- It ends with the closing mark of a comment. -/
  | comment
  /-- It ends with a closing mark, and a particle may follow. -/
  | string (shape : Shape) (close : Char)

/-- The stretch of that extent in a text. -/
def Extent.reading (rest : List Char) : Extent → Reading
  | near reading => reading
  | line shape => .bare shape (lengthToLineEnd rest)
  | comment => readRangeComment rest.tail
  | string shape close => .beforeParticle shape (lengthThrough [close] rest) rest

/-- The extent of what starts with `c`, when `near` is in sight. -/
def extent (atLineStart : Bool) (c : Char) (near : List Char) : Extent :=
  if opensLineComment c near then .line .lineComment
  else if opensRangeComment c near then .comment
  else if opensPragma c && atLineStart then .line .pragma
  else
    match stringMark? c with
    | some (shape, close) => .string shape close
    | none => .near (read atLineStart c near)

section extent

variable {atLineStart : Bool} {c : Char} {near : List Char}

/-- What is wholly in sight is no longer than the sight. -/
theorem more_le_of_extent_eq_near {reading : Reading}
    (h : extent atLineStart c near = .near reading) : reading.more ≤ near.length := by
  unfold extent at h
  split_ifs at h
  split at h
  · cases h
  · cases h
    exact more_le_of_reads (reads_read ..)

theorem opensRangeComment_of_extent_eq_comment (h : extent atLineStart c near = .comment) :
    opensRangeComment c near = true := by
  unfold extent at h
  split_ifs at h with hline hrange
  · exact hrange
  · split at h <;> cases h

theorem stringMark?_of_extent_eq_string {shape : Shape} {close : Char}
    (h : extent atLineStart c near = .string shape close) :
    stringMark? c = some (shape, close) := by
  unfold extent at h
  split_ifs at h
  split at h
  · next hmark =>
      cases h
      exact hmark
  · cases h

end extent

/-- The marks with which comments, pragmas and strings may start. -/
def openingMarks : List Char := ['#', '＃', '※', '/', '!', '！', '「', '『', '"', '“']

/-- An opening mark is none of the things that are looked for before it. -/
theorem guards_of_mem_openingMarks {c : Char} (h : c ∈ openingMarks) :
    (c == '\n') = false ∧ isBlank c = false ∧ startsWord c = false ∧ (c == '、') = false
      ∧ (c == '。') = false := by
  simp only [openingMarks, List.mem_cons, List.not_mem_nil, or_false] at h
  rcases h with rfl | rfl | rfl | rfl | rfl | rfl | rfl | rfl | rfl | rfl <;>
    exact ⟨by decide, by decide, by decide +kernel, by decide, by decide⟩

theorem mem_openingMarks_of_opensLineComment {c : Char} {rest : List Char}
    (h : opensLineComment c rest = true) : c ∈ openingMarks := by
  simp only [opensLineComment, Bool.or_eq_true, Bool.and_eq_true, beq_iff_eq] at h
  rcases h with ((rfl | rfl) | rfl) | ⟨rfl, _⟩ <;> decide

theorem mem_openingMarks_of_opensRangeComment {c : Char} {rest : List Char}
    (h : opensRangeComment c rest = true) : c ∈ openingMarks := by
  rw [(exists_body_of_opensRangeComment h).1]
  decide

theorem mem_openingMarks_of_opensPragma {c : Char} (h : opensPragma c = true) :
    c ∈ openingMarks := by
  simp only [opensPragma, Bool.or_eq_true, beq_iff_eq] at h
  rcases h with rfl | rfl <;> decide

theorem mem_openingMarks_of_stringMark? {c : Char} {mark : Shape × Char}
    (h : stringMark? c = some mark) : c ∈ openingMarks := by
  unfold stringMark? at h
  split_ifs at h with h₁ h₂ h₃ h₄
  · rw [beq_iff_eq.mp h₁]; decide
  · rw [beq_iff_eq.mp h₂]; decide
  · rw [beq_iff_eq.mp h₃]; decide
  · rw [beq_iff_eq.mp h₄]; decide

theorem not_breaksLine_of_stringMark? {c close : Char} {shape : Shape}
    (h : stringMark? c = some (shape, close)) : Cursor.breaksLine close = false := by
  unfold stringMark? at h
  split_ifs at h <;> (cases h; decide)

/-- **Reading decides in sight what it reads, and then how far it goes.** -/
theorem read_eq_extent (atLineStart : Bool) (c : Char) (rest : List Char) :
    read atLineStart c rest = (extent atLineStart c (sight rest)).reading rest := by
  unfold extent
  rw [opensLineComment_sight, opensRangeComment_sight]
  by_cases hline : opensLineComment c rest = true
  · obtain ⟨hbreak, hblank, hword, hcomma, hstop⟩ :=
      guards_of_mem_openingMarks (mem_openingMarks_of_opensLineComment hline)
    simp [read, hbreak, hblank, hword, hcomma, hstop, hline, Extent.reading]
  rw [if_neg hline]
  by_cases hrange : opensRangeComment c rest = true
  · obtain ⟨hbreak, hblank, hword, hcomma, hstop⟩ :=
      guards_of_mem_openingMarks (mem_openingMarks_of_opensRangeComment hrange)
    simp [read, hbreak, hblank, hword, hcomma, hstop, hline, hrange, Extent.reading]
  rw [if_neg hrange]
  by_cases hpragma : (opensPragma c && atLineStart) = true
  · obtain ⟨hbreak, hblank, hword, hcomma, hstop⟩ := guards_of_mem_openingMarks
      (mem_openingMarks_of_opensPragma (Bool.and_eq_true .. ▸ hpragma).1)
    rw [if_pos hpragma]
    simp only [read, hbreak, hblank, hword, hcomma, hstop, hline, hrange, hpragma, Extent.reading,
      Bool.false_eq_true, if_false, if_true]
  rw [if_neg hpragma]
  cases hmark : stringMark? c with
  | some mark =>
      obtain ⟨hbreak, hblank, hword, hcomma, hstop⟩ :=
        guards_of_mem_openingMarks (mem_openingMarks_of_stringMark? hmark)
      simp only [read, hbreak, hblank, hword, hcomma, hstop, hline, hrange, hpragma, hmark,
        Extent.reading, Bool.false_eq_true, if_false]
  | none =>
      -- what is left are words, numbers and signs, and gaps
      dsimp only [Extent.reading]
      unfold read
      by_cases hbreak : (c == '\n') = true
      · rw [if_pos hbreak, if_pos hbreak]
      rw [if_neg hbreak, if_neg hbreak]
      by_cases hblank : isBlank c = true
      · rw [if_pos hblank, if_pos hblank]
      have hc : Cursor.breaksLine c = false :=
        not_breaksLine_of_not_isGapChar (by simp_all [isGapChar])
      have hahead := ahead?_sight (c :: rest)
      have hparticle : particle? ((sight rest).drop (numberLength rest))
          = particle? (rest.drop (numberLength rest)) := by
        have hle := numberLength_le_length (sight rest)
        rw [numberLength_sight] at hle
        rw [drop_sight hle, particle?_sight]
      rw [sight_cons hc] at hahead
      simp only [opensLineComment_sight, opensRangeComment_sight, hline, hrange, hpragma, hmark,
        wordEnd_sight, numberLength_sight, Reading.beforeParticle, hparticle, hahead,
        Bool.false_eq_true, if_false]

end Nadesiko.Lexeme
