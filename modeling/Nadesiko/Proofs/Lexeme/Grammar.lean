import Mathlib
import Nadesiko.Proofs.Text.Marks
import Nadesiko.Proofs.Lexeme.Locality

/-!
# How lexemes are written

Reading decides by guards that are tried in order and by lengths that are counted. What comes out
can be said without either: for each shape there is a rule for its stem, which may look at what
stands before it on its line and at what follows it. A number is digits with or without a fraction,
and nothing follows that could belong to it; a string reaches from an opening mark through the first
closing mark; an operator is the longest entry of its table.

The rules are `Shape.Spells`, and `Written` adds what is said of the lexeme as a whole: when it is a
word or a pragma, and which particle stands behind it.
-/

namespace Nadesiko.Lexeme

open Text Lexicon

/-! ## The rules -/

/-- No character with the property `p` comes next. -/
def NoneNext (p : Char → Bool) (rest : List Char) : Prop := ∀ c ∈ rest.head?, p c = false

/-- A word is made of word characters and does not start with a digit. -/
def IsWord (stem : List Char) : Prop :=
  ∃ c run, stem = c :: run ∧ startsWord c = true ∧ ∀ d ∈ run, isWordChar d = true

/-- One digit or more. -/
def IsDigits (digits : List Char) : Prop := digits ≠ [] ∧ ∀ c ∈ digits, isDigit c = true

/-- A point with a digit behind it comes next. -/
def FractionNext (rest : List Char) : Prop :=
  ∃ point digit later, rest = point :: digit :: later ∧ isPoint point = true ∧ isDigit digit = true

/-- A number is digits with or without a fraction, and takes all that could belong to it. -/
def IsNumber (stem rest : List Char) : Prop :=
  NoneNext isDigit rest
    ∧ ((IsDigits stem ∧ ¬ FractionNext rest)
      ∨ ∃ whole point fraction, stem = whole ++ point :: fraction
        ∧ IsDigits whole ∧ isPoint point = true ∧ IsDigits fraction)

/-- What ends with its line stops right before the next line feed, or at the end of the text. -/
def EndsWithLine (stem rest : List Char) : Prop := '\n' ∉ stem ∧ ∀ c ∈ rest.head?, c = '\n'

/-- What is enclosed starts with an opening mark and runs through its closing mark. -/
def IsEnclosed (marks : List (List Char × List Char)) (stem rest : List Char) : Prop :=
  ∃ opening close content, (opening, close) ∈ marks ∧ stem = opening ++ content
    ∧ RunsThrough close content rest

/-- Documentation opens with two asterisks, the second of which is not part of the closing mark. -/
def IsDocumentation (stem : List Char) : Prop :=
  "/**".toList <+: stem ∧ ¬ "/**/".toList <+: stem

/-- The longest entry of a table that a text begins with. -/
def IsLongest (table : List String) (mark : String) (ahead : List Char) : Prop :=
  mark ∈ table ∧ mark.toList <+: ahead
    ∧ ∀ other ∈ table, other.toList <+: ahead → other.length ≤ mark.length

/-- How the stems of a shape are written, `before` and `rest` being what stands around them. -/
def Shape.Spells (shape : Shape) (before stem rest : List Char) : Prop :=
  match shape with
  | .lineBreak => stem = ['\n']
  | .blank => ∃ c, stem = [c] ∧ isBlank c = true
  | .word => IsWord stem
  | .comma => stem = ['、']
  | .sentenceEnd => stem = ['。']
  | .lineComment =>
    (∃ mark ∈ ["#", "＃", "※", "//"], mark.toList <+: stem) ∧ EndsWithLine stem rest
  | .rangeComment => IsEnclosed shape.marks stem rest ∧ ¬ IsDocumentation stem
  | .docComment => IsEnclosed shape.marks stem rest ∧ IsDocumentation stem
  | .pragma =>
    (∃ mark ∈ ["!", "！"], mark.toList <+: stem) ∧ EndsInBlankLine before ∧ EndsWithLine stem rest
  | .string | .template => IsEnclosed shape.marks stem rest
  | .number => IsNumber stem rest
  | .definition => stem = ['●']
  | .operator op =>
    stem = op.spelling.toList
      ∧ IsLongest (Operator.all.map Operator.spelling) op.spelling (stem ++ rest)
  | .unknown => ∃ c, stem = [c] ∧ ∀ op : Operator, ¬ op.spelling.toList <+: stem ++ rest

/-- The shapes that a particle may follow. -/
def Shape.takesParticle : Shape → Bool
  | .word | .string | .template | .number => true
  | _ => false

/-- How a lexeme is written in a text, behind `front` and before `back`. -/
structure Written (lexeme : Lexeme) (front back : List Char) : Prop where
  /-- The stem is written as its shape demands. -/
  spells : lexeme.shape.Spells front lexeme.stem (lexeme.particleChars ++ back)
  /-- Words are told by their first character. -/
  word_iff : ∀ c ∈ lexeme.stem.head?, (lexeme.shape = .word ↔ startsWord c = true)
  /-- A mark of a pragma starts one exactly at the start of a line. -/
  pragma_iff : ∀ c ∈ lexeme.stem.head?, opensPragma c = true →
    (lexeme.shape = .pragma ↔ EndsInBlankLine front)
  /-- A particle is the longest one that stands behind the stem. -/
  particle_longest : ∀ particle, lexeme.particle = some particle →
    lexeme.shape.takesParticle = true
      ∧ IsLongest particles particle (lexeme.particleChars ++ back)
  /-- Behind a string or a number, a particle is taken whenever there is one. -/
  particle_none : lexeme.shape.takesParticle = true → lexeme.shape ≠ .word →
    lexeme.particle = none → ∀ particle ∈ particles, ¬ particle.toList <+: back

/-! ## Tables -/

/-- The first entry that fits is the longest one, because longer entries come first. -/
theorem isLongest_of_find? {table : List String}
    (hsorted : table.Pairwise (fun p q => q.toList.length ≤ p.toList.length)) {mark : String}
    {ahead : List Char} (h : table.find? (·.toList.isPrefixOf ahead) = some mark) :
    IsLongest table mark ahead := by
  refine ⟨List.mem_of_find?_eq_some h, ?_, ?_⟩
  · have hfits := List.find?_some h
    exact List.isPrefixOf_iff_prefix.mp hfits
  · intro other hmem hother
    obtain ⟨_, earlier, later, htable, hnone⟩ := List.find?_eq_some_iff_append.mp h
    rw [← String.length_toList, ← String.length_toList]
    rw [htable, List.mem_append, List.mem_cons] at hmem
    rcases hmem with hearlier | heq | hlater
    · have hmisfit := hnone other hearlier
      rw [List.isPrefixOf_iff_prefix.mpr hother] at hmisfit
      cases hmisfit
    · rw [heq]
    · rw [htable, List.pairwise_append, List.pairwise_cons] at hsorted
      exact hsorted.2.1.1 other hlater

theorem isLongest_of_particle? {ahead : List Char} {particle : String}
    (h : particle? ahead = some particle) : IsLongest particles particle ahead :=
  isLongest_of_find? particles_pairwise_length h

theorem not_prefix_of_particle?_eq_none {ahead : List Char} (h : particle? ahead = none) :
    ∀ particle ∈ particles, ¬ particle.toList <+: ahead := by
  intro particle hmem hprefix
  exact List.find?_eq_none.mp h particle hmem (List.isPrefixOf_iff_prefix.mpr hprefix)

/-- No operator is written longer than one before it in the table. -/
theorem operators_pairwise_length :
    (Operator.all.map Operator.spelling).Pairwise
      (fun p q => q.toList.length ≤ p.toList.length) := by decide

theorem isLongest_of_ahead? {ahead : List Char} {op : Operator}
    (h : Operator.ahead? ahead = some op) :
    IsLongest (Operator.all.map Operator.spelling) op.spelling ahead := by
  apply isLongest_of_find? operators_pairwise_length
  rw [List.find?_map]
  exact congrArg (Option.map Operator.spelling) h

theorem not_prefix_of_ahead?_eq_none {ahead : List Char} (h : Operator.ahead? ahead = none)
    (op : Operator) : ¬ op.spelling.toList <+: ahead := by
  intro hprefix
  exact List.find?_eq_none.mp h op op.mem_all (List.isPrefixOf_iff_prefix.mpr hprefix)

/-! ## Stretches of characters -/

theorem take_length_takeWhile (p : Char → Bool) (text : List Char) :
    text.take (text.takeWhile p).length = text.takeWhile p :=
  (List.prefix_iff_eq_take.mp (List.takeWhile_prefix p)).symm

theorem drop_length_takeWhile (p : Char → Bool) (text : List Char) :
    text.drop (text.takeWhile p).length = text.dropWhile p := by
  have hdrop : (text.takeWhile p ++ text.dropWhile p).drop (text.takeWhile p).length
      = text.dropWhile p := List.drop_left
  rw [List.takeWhile_append_dropWhile] at hdrop
  exact hdrop

theorem noneNext_dropWhile (p : Char → Bool) (text : List Char) :
    NoneNext p (text.dropWhile p) := by
  intro c hc
  have hnot := List.head?_dropWhile_not p text
  rw [Option.mem_def.mp hc] at hnot
  exact hnot

/-- The characters of a word are word characters. -/
theorem isWordChar_of_mem_wordEnd (last : Char) (before rest : List Char) :
    ∀ c ∈ rest.take (wordEnd last before rest).1, isWordChar c = true := by
  fun_induction wordEnd last before rest with
  | case1 => simp
  | case2 => simp
  | case3 => simp
  | case4 => simp
  | case5 last before next rest hnext _ _ more particle hmore ih =>
      rw [hmore] at ih
      rw [List.take_succ_cons, List.forall_mem_cons]
      exact ⟨by simpa using hnext, ih⟩

theorem isNumber_numberLength {c : Char} (hc : isDigit c = true) (rest : List Char) :
    IsNumber (c :: rest.take (numberLength rest)) (rest.drop (numberLength rest)) := by
  have hdigits : IsDigits (c :: rest.takeWhile isDigit) := by
    refine ⟨List.cons_ne_nil _ _, ?_⟩
    rw [List.forall_mem_cons]
    exact ⟨hc, fun d hd => List.mem_takeWhile_imp hd⟩
  have hnext := noneNext_dropWhile isDigit rest
  unfold numberLength
  dsimp only
  rw [List.take_add, ← List.drop_drop, take_length_takeWhile, drop_length_takeWhile]
  generalize rest.dropWhile isDigit = behind at hnext ⊢
  cases behind with
  | nil => exact ⟨hnext, Or.inl ⟨by simpa [fractionLength] using hdigits, by simp [FractionNext]⟩⟩
  | cons point later =>
      rw [fractionLength]
      split_ifs with hpoint
      · -- the point belongs to the number, with the digits behind it
        rw [Bool.and_eq_true, decide_eq_true_eq] at hpoint
        rw [List.take_succ_cons, List.drop_succ_cons, take_length_takeWhile,
          drop_length_takeWhile]
        refine ⟨noneNext_dropWhile isDigit later, Or.inr ⟨_, point, _, rfl, hdigits, hpoint.1, ?_⟩⟩
        exact ⟨List.length_pos_iff.mp hpoint.2, fun d hd => List.mem_takeWhile_imp hd⟩
      · rw [List.take_zero, List.append_nil, List.drop_zero]
        refine ⟨hnext, Or.inl ⟨hdigits, ?_⟩⟩
        intro hfraction
        obtain ⟨point', digit, later', heq, hp, hd⟩ := hfraction
        obtain ⟨rfl, rfl⟩ := List.cons.inj heq
        apply hpoint
        simp [hp, hd]

theorem endsWithLine_lengthToLineEnd {c : Char} (hc : c ≠ '\n') (rest : List Char) :
    EndsWithLine (c :: rest.take (lengthToLineEnd rest)) (rest.drop (lengthToLineEnd rest)) := by
  unfold lengthToLineEnd
  rw [take_length_takeWhile, drop_length_takeWhile]
  refine ⟨?_, ?_⟩
  · rw [List.mem_cons, not_or]
    refine ⟨Ne.symm hc, ?_⟩
    intro hmem
    have hbreak := List.mem_takeWhile_imp hmem
    cases hbreak
  · intro d hd
    have hbreak := noneNext_dropWhile _ rest d hd
    simpa using hbreak

/-! ## Comments -/

theorem lengthThrough_of_startsWith {close text : List Char} (h : close <+: text) :
    lengthThrough close text = close.length := by
  cases text with
  | nil => rw [List.prefix_nil.mp h]; rfl
  | cons c text => rw [lengthThrough, if_pos (List.isPrefixOf_iff_prefix.mpr h)]

theorem lengthThrough_pos {close : List Char} (hclose : close ≠ []) {text : List Char}
    (h : text ≠ []) : 0 < lengthThrough close text := by
  cases text with
  | nil => exact absurd rfl h
  | cons c text =>
      rw [lengthThrough]
      split
      · exact List.length_pos_iff.mpr hclose
      · exact Nat.succ_pos _

/-- Whether a comment is documentation can be told from its stem. -/
theorem isDocumentation_iff (body : List Char) :
    IsDocumentation ('/' :: '*' :: body.take (lengthThrough commentClose body))
      ↔ (body.head? == some '*' && !commentClose.isPrefixOf body) = true := by
  have hopen : "/**".toList <+: '/' :: '*' :: body.take (lengthThrough commentClose body)
      ↔ body.head? = some '*' := by
    cases body with
    | nil => decide
    | cons c body =>
        have hpos : 0 < lengthThrough commentClose (c :: body) :=
          lengthThrough_pos (by decide) (List.cons_ne_nil c body)
        obtain ⟨n, hn⟩ := Nat.exists_eq_succ_of_ne_zero hpos.ne'
        rw [hn, List.take_succ_cons]
        simp [eq_comm]
  have hclose : "/**/".toList <+: '/' :: '*' :: body.take (lengthThrough commentClose body)
      ↔ commentClose <+: body := by
    have hsame : "/**/".toList = '/' :: '*' :: commentClose := rfl
    rw [hsame, List.prefix_cons_inj, List.prefix_cons_inj, List.prefix_take_iff]
    refine and_iff_left_of_imp ?_
    intro hprefix
    rw [lengthThrough_of_startsWith hprefix]
  rw [IsDocumentation, hopen, hclose, Bool.and_eq_true, Bool.not_eq_true', beq_iff_eq,
    ← List.isPrefixOf_iff_prefix, Bool.not_eq_true]

theorem spells_readRangeComment (before body : List Char) :
    (readRangeComment body).shape.Spells before
      ('/' :: '*' :: body.take (lengthThrough commentClose body))
      (body.drop (lengthThrough commentClose body)) := by
  have hruns : RunsThrough commentClose (body.take (lengthThrough commentClose body))
      (body.drop (lengthThrough commentClose body)) := runsThrough_lengthThrough (by decide) body
  have hdoc := isDocumentation_iff body
  dsimp only [readRangeComment, Reading.bare]
  split_ifs with h
  · exact ⟨⟨['/', '*'], commentClose, _, by decide, rfl, hruns⟩, hdoc.mpr h⟩
  · exact ⟨⟨['/', '*'], commentClose, _, by decide, rfl, hruns⟩, fun hd => h (hdoc.mp hd)⟩

/-! ## One reading -/

theorem exists_mark_of_opensLineComment {c : Char} {rest : List Char}
    (h : opensLineComment c rest = true) :
    ∃ mark ∈ ["#", "＃", "※", "//"], mark.toList <+: c :: rest.take (lengthToLineEnd rest) := by
  simp only [opensLineComment, Bool.or_eq_true, Bool.and_eq_true, beq_iff_eq] at h
  rcases h with ((rfl | rfl) | rfl) | ⟨rfl, hnext⟩
  · exact ⟨"#", by decide, List.prefix_append ['#'] _⟩
  · exact ⟨"＃", by decide, List.prefix_append ['＃'] _⟩
  · exact ⟨"※", by decide, List.prefix_append ['※'] _⟩
  · obtain ⟨later, rfl⟩ := List.head?_eq_some_iff.mp hnext
    rw [lengthToLineEnd_cons (by decide), List.take_succ_cons]
    exact ⟨"//", by decide, List.prefix_append ['/', '/'] _⟩

theorem exists_mark_of_opensPragma {c : Char} (h : opensPragma c = true) (stem : List Char) :
    ∃ mark ∈ ["!", "！"], mark.toList <+: c :: stem := by
  simp only [opensPragma, Bool.or_eq_true, beq_iff_eq] at h
  rcases h with rfl | rfl
  · exact ⟨"!", by decide, List.prefix_append ['!'] _⟩
  · exact ⟨"！", by decide, List.prefix_append ['！'] _⟩

theorem shape_of_stringMark? {c close : Char} {shape : Shape}
    (h : stringMark? c = some (shape, close)) : shape = .string ∨ shape = .template := by
  unfold stringMark? at h
  split_ifs at h <;> (cases h; simp)

theorem ne_newline_of_not_isGapChar {c : Char} (h : isGapChar c = false) : c ≠ '\n' := by
  intro hc
  rw [hc] at h
  cases h

/-- The characters that are read for an operator are those it is written with. -/
theorem stem_of_ahead? {c : Char} {rest : List Char} {op : Operator}
    (h : Operator.ahead? (c :: rest) = some op) :
    c :: rest.take (op.spelling.length - 1) = op.spelling.toList := by
  rw [List.prefix_iff_eq_take.mp (Operator.spelling_of_ahead? h), String.length_toList,
    ← List.take_succ_cons, Nat.sub_add_cancel op.spelling_length_pos]

/-- **What is read is written as its shape demands.** -/
theorem spells_of_reads {atLineStart : Bool} {c : Char} {rest before : List Char}
    {reading : Reading} (hs : atLineStart = true ↔ EndsInBlankLine before)
    (h : Reads atLineStart c rest reading) :
    reading.shape.Spells before (c :: rest.take reading.more) (rest.drop reading.more) := by
  cases h with
  | lineBreak hc => rw [hc]; rfl
  | blank hc => exact ⟨c, rfl, hc⟩
  | word hg hc => exact ⟨c, _, rfl, hc, isWordChar_of_mem_wordEnd c [] rest⟩
  | comma hg hc => rw [hc]; rfl
  | sentenceEnd hg hc => rw [hc]; rfl
  | lineComment hg hc =>
      exact ⟨exists_mark_of_opensLineComment hc,
        endsWithLine_lengthToLineEnd (ne_newline_of_not_isGapChar hg) rest⟩
  | rangeComment hg hc =>
      obtain ⟨rfl, body, rfl⟩ := exists_body_of_opensRangeComment hc
      exact spells_readRangeComment before body
  | pragma hg hc hstart =>
      exact ⟨exists_mark_of_opensPragma hc _, hs.mp hstart,
        endsWithLine_lengthToLineEnd (ne_newline_of_not_isGapChar hg) rest⟩
  | @string hg shape close hc =>
      have henclosed : IsEnclosed shape.marks (c :: rest.take (lengthThrough [close] rest))
          (rest.drop (lengthThrough [close] rest)) :=
        ⟨[c], [close], _, mem_marks_of_stringMark? hc, rfl,
          runsThrough_lengthThrough (by simp) rest⟩
      rcases shape_of_stringMark? hc with rfl | rfl
      · exact henclosed
      · exact henclosed
  | number hg hc => exact isNumber_numberLength hc rest
  | definition hg hc => rw [hc]; rfl
  | @operator hg he op hc =>
      have hlongest := isLongest_of_ahead? hc
      refine ⟨stem_of_ahead? hc, ?_⟩
      dsimp only [Reading.bare]
      rw [List.cons_append, List.take_append_drop]
      exact hlongest
  | unknown hg he hc =>
      refine ⟨c, rfl, ?_⟩
      intro op
      exact not_prefix_of_ahead?_eq_none hc op

theorem startsWord_eq_false_of_isBlank {c : Char} (h : isBlank c = true) :
    startsWord c = false := by
  simp only [isBlank, Bool.or_eq_true, beq_iff_eq] at h
  rcases h with ((rfl | rfl) | rfl) | rfl <;> decide +kernel

section shapes

variable {atLineStart : Bool} {c : Char} {rest : List Char} {reading : Reading}

/-- Exactly the characters that may start a word do. -/
theorem shape_eq_word_iff (h : Reads atLineStart c rest reading) :
    reading.shape = .word ↔ startsWord c = true := by
  cases h with
  | word hg hc => exact iff_of_true rfl hc
  | lineBreak hc => rw [hc]; exact iff_of_false (by simp [Reading.bare]) (by decide +kernel)
  | blank hc =>
      refine iff_of_false (by simp [Reading.bare]) ?_
      rw [startsWord_eq_false_of_isBlank hc]
      simp
  | comma hg hc => rw [hc]; exact iff_of_false (by simp [Reading.bare]) (by decide +kernel)
  | sentenceEnd hg hc => rw [hc]; exact iff_of_false (by simp [Reading.bare]) (by decide +kernel)
  | definition hg hc => rw [hc]; exact iff_of_false (by simp [Reading.bare]) (by decide +kernel)
  | lineComment hg hc =>
      have hguards := guards_of_mem_openingMarks (mem_openingMarks_of_opensLineComment hc)
      exact iff_of_false (by simp [Reading.bare]) (by simp [hguards])
  | rangeComment hg hc =>
      have hguards := guards_of_mem_openingMarks (mem_openingMarks_of_opensRangeComment hc)
      refine iff_of_false ?_ (by simp [hguards])
      dsimp only [readRangeComment, Reading.bare]
      split <;> simp
  | pragma hg hc hs =>
      have hguards := guards_of_mem_openingMarks (mem_openingMarks_of_opensPragma hc)
      exact iff_of_false (by simp [Reading.bare]) (by simp [hguards])
  | string hg hc =>
      have hguards := guards_of_mem_openingMarks (mem_openingMarks_of_stringMark? hc)
      refine iff_of_false ?_ (by simp [hguards])
      rcases shape_of_stringMark? hc with rfl | rfl <;> simp [Reading.beforeParticle]
  | number hg hc => exact iff_of_false (by simp [Reading.beforeParticle]) (by simp [startsWord, hc])
  | operator hg he hc =>
      exact iff_of_false (by simp [Reading.bare]) (by simp_all [opensNothingElse])
  | unknown hg he hc =>
      exact iff_of_false (by simp [Reading.bare]) (by simp_all [opensNothingElse])

/-- A mark of a pragma starts nothing else that is looked for by name. -/
theorem guards_of_opensPragma (hc : opensPragma c = true) (rest : List Char) :
    opensLineComment c rest = false ∧ opensRangeComment c rest = false ∧ stringMark? c = none
      ∧ isDigit c = false ∧ c ≠ '●' := by
  simp only [opensPragma, Bool.or_eq_true, beq_iff_eq] at hc
  rcases hc with rfl | rfl
  · exact ⟨rfl, rfl, rfl, by decide, by decide⟩
  · exact ⟨rfl, rfl, rfl, by decide, by decide⟩

/-- A mark of a pragma starts one exactly at the start of a line. -/
theorem shape_eq_pragma_iff (hc : opensPragma c = true) (h : Reads atLineStart c rest reading) :
    reading.shape = .pragma ↔ atLineStart = true := by
  obtain ⟨hbreak, hblank, hword, hcomma, hstop⟩ :=
    guards_of_mem_openingMarks (mem_openingMarks_of_opensPragma hc)
  obtain ⟨hline, hrange, hmark, hdigit, hdef⟩ := guards_of_opensPragma hc rest
  cases h with
  | pragma hg _ hs => exact iff_of_true rfl hs
  | operator hg he _ => simp_all [opensNothingElse, Reading.bare]
  | unknown hg he _ => simp_all [opensNothingElse, Reading.bare]
  | lineBreak h => simp_all
  | blank h => simp_all
  | word _ h => simp_all
  | comma _ h => simp_all
  | sentenceEnd _ h => simp_all
  | lineComment _ h => simp_all
  | rangeComment _ h => simp_all
  | string _ h => simp_all
  | number _ h => simp_all
  | definition _ h => exact absurd h hdef

theorem takesParticle_of_particle (h : Reads atLineStart c rest reading) {particle : String}
    (hp : reading.particle = some particle) : reading.shape.takesParticle = true := by
  cases h with
  | word => rfl
  | string hg hc => rcases shape_of_stringMark? hc with rfl | rfl <;> rfl
  | number => rfl
  | _ => cases hp

/-- Behind a string or a number, a particle is looked for in any case. -/
theorem particle_eq_particle? (h : Reads atLineStart c rest reading)
    (htakes : reading.shape.takesParticle = true) (hword : reading.shape ≠ .word) :
    reading.particle = particle? (rest.drop reading.more) := by
  cases h with
  | word => exact absurd rfl hword
  | string => rfl
  | number => rfl
  | rangeComment =>
      dsimp only [readRangeComment, Reading.bare] at htakes
      split at htakes <;> cases htakes
  | _ => cases htakes

end shapes

/-! ## All lexemes -/

theorem written_ofReading {cur : Cursor} {c : Char} {rest before : List Char} {reading : Reading}
    (hr : cur.rest = c :: rest) (hs : cur.atLineStart = true ↔ EndsInBlankLine before)
    (h : Reads cur.atLineStart c rest reading) :
    (ofReading cur reading).Written before (after cur reading).rest := by
  have hstem : (ofReading cur reading).stem = c :: rest.take reading.more := by
    rw [ofReading, hr, List.take_succ_cons]
  have hrest : (ofReading cur reading).particleChars ++ (after cur reading).rest
      = rest.drop reading.more := by
    have hbehind := rest_behind_stem hr h
    rw [Cursor.rest_advanceBy, hr, List.drop_succ_cons] at hbehind
    exact hbehind.symm
  have hfirst : ∀ d ∈ (ofReading cur reading).stem.head?, d = c := by
    intro d hd
    rw [hstem] at hd
    exact (Option.some.inj hd).symm
  constructor
  case spells =>
    rw [hstem, hrest]
    exact spells_of_reads hs h
  case word_iff =>
    intro d hd
    rw [hfirst d hd]
    exact shape_eq_word_iff h
  case pragma_iff =>
    intro d hd hpragma
    rw [hfirst d hd] at hpragma
    rw [← hs]
    exact shape_eq_pragma_iff hpragma h
  case particle_longest =>
    intro particle hp
    rw [hrest]
    exact ⟨takesParticle_of_particle h hp, isLongest_of_particle? (particle?_of_reads h hp)⟩
  case particle_none =>
    intro htakes hword hp
    have hnone := particle_eq_particle? h htakes hword
    have hback : (after cur reading).rest = rest.drop reading.more := by
      rw [← hrest, particleChars, hp, List.nil_append]
    rw [hback]
    exact not_prefix_of_particle?_eq_none (hnone.symm.trans hp)

/-- **Every lexeme is written as its shape demands, where it stands.** -/
theorem written_of_scan_eq {cur : Cursor} {before : List Char}
    (hs : cur.atLineStart = true ↔ EndsInBlankLine before) {front back : List Lexeme}
    {lexeme : Lexeme} (h : scan cur = front ++ lexeme :: back) :
    lexeme.Written (before ++ front.flatMap text) (back.flatMap text) := by
  induction front generalizing cur before with
  | nil =>
      cases hr : cur.rest with
      | nil => rw [scan_of_rest_eq_nil hr] at h; cases h
      | cons c rest =>
          rw [scan_of_rest_eq_cons hr, List.nil_append] at h
          obtain ⟨rfl, rfl⟩ := List.cons.inj h
          rw [flatMap_text_scan, List.flatMap_nil, List.append_nil]
          exact written_ofReading hr hs (reads_read ..)
  | cons first front ih =>
      cases hr : cur.rest with
      | nil => rw [scan_of_rest_eq_nil hr] at h; cases h
      | cons c rest =>
          rw [scan_of_rest_eq_cons hr, List.cons_append] at h
          obtain ⟨rfl, hlater⟩ := List.cons.inj h
          have hreads := reads_read cur.atLineStart c rest
          rw [List.flatMap_cons, ← List.append_assoc]
          refine ih ?_ hlater
          -- the flag of the cursor behind the first lexeme
          have htext := text_ofReading_append hr hreads
          rw [after, ← Cursor.advanceBy_add] at htext ⊢
          exact atLineStart_passed_iff hs htext.symm rfl

end Nadesiko.Lexeme
