import Mathlib
import Nadesiko.Proofs.Lexeme.Words
import Nadesiko.Proofs.Token.Grammar

/-!
# Keywords as tokens

The table of keywords, the table of particles and the search for the end of a word do not know of
each other, and the search looks for particles and for keywords that may follow a word before any
spelling is looked up. So a spelling is found as a whole only if the search does not stop inside of
it. It stops in two of them: や in 増やし繰り返す is taken for a particle, and ならば in エラーならば for
a keyword of its own.

The other way round, a keyword that may follow a word is found behind one only if it does not start
with a particle, and でなければ starts with で.
-/

namespace Nadesiko

open Text Lexicon

/-! ## The first tokens of a text -/

/-- Blanks and line feeds in front of a text are gaps. -/
theorem Lexeme.scan_of_gapChars {blanks : List Char}
    (hblanks : ∀ c ∈ blanks, Lexeme.isGapChar c = true) {cur : Cursor} {rest : List Char}
    (hrest : cur.rest = blanks ++ rest) :
    ∃ gaps : List Lexeme, (∀ gap ∈ gaps, gap.shape.isGap = true)
      ∧ scan cur = gaps ++ scan (cur.advanceBy blanks.length) := by
  induction blanks generalizing cur with
  | nil => exact ⟨[], by simp, rfl⟩
  | cons c blanks ih =>
      obtain ⟨hc, hmore⟩ := List.forall_mem_cons.mp hblanks
      rw [List.cons_append] at hrest
      have hnext : cur.advance.rest = blanks ++ rest := by
        rw [Cursor.rest_advance, hrest, List.tail_cons]
      obtain ⟨gaps, hgaps, hscan⟩ := ih hmore hnext
      have hscan' := scan_of_rest_eq_cons hrest
      rcases isGap_of_reads (reads_read cur.atLineStart c (blanks ++ rest)) with
        ⟨hgap, _, hbare⟩ | ⟨_, hno⟩
      · generalize read cur.atLineStart c (blanks ++ rest) = reading at hgap hbare hscan'
        rw [hbare, after_bare_zero, hscan] at hscan'
        refine ⟨_ :: gaps, ?_, hscan'⟩
        rw [List.forall_mem_cons]
        exact ⟨hgap, hgaps⟩
      · rw [hc] at hno
        cases hno

namespace Token

/-- Outside of headers, gaps leave nothing behind. -/
theorem ofLexemes_outside_gaps {gaps : List Lexeme}
    (hgaps : ∀ gap ∈ gaps, gap.shape.isGap = true) (later : List Lexeme) :
    ofLexemes .outside (gaps ++ later) = ofLexemes .outside later := by
  induction gaps with
  | nil => rfl
  | cons gap gaps ih =>
      obtain ⟨hgap, hmore⟩ := List.forall_mem_cons.mp hgaps
      have hkind : Header.outside.kind? gap = none := Header.kind?_eq_none_iff.mpr hgap
      have hnext : Header.outside.next gap = .outside := by
        unfold Header.next
        cases hs : gap.shape <;> simp_all [Lexeme.Shape.isGap]
      rw [List.cons_append, ofLexemes, hkind, hnext]
      exact ih hmore

theorem ofLexemes_outside_word {lexeme : Lexeme} (h : lexeme.shape = .word)
    (later : List Lexeme) :
    ofLexemes .outside (lexeme :: later)
      = ofLexeme (Header.wordKind lexeme.stem) lexeme :: ofLexemes .outside later := by
  have hkind : Header.outside.kind? lexeme = some (Header.wordKind lexeme.stem) := by
    rw [Header.kind?, h]
    rfl
  have hnext : Header.outside.next lexeme = .outside := by
    rw [Header.next, h]
    rfl
  rw [ofLexemes, hkind, hnext]

/-- The tokens from a cursor on that stands outside of headers, when functions of the given names
are there to be called. -/
def fromCursor (names : List String) (cur : Cursor) : List Token :=
  (ofLexemes .outside (Lexeme.scan cur)).map (markCall names)

/-- Blanks and line feeds in front of a text leave nothing behind. -/
theorem tokenize_eq_fromCursor {blanks : List Char}
    (hblanks : ∀ c ∈ blanks, Lexeme.isGapChar c = true) (rest : List Char) :
    ∃ names, tokenize (blanks ++ rest)
      = fromCursor names ((Cursor.start (blanks ++ rest)).advanceBy blanks.length) := by
  obtain ⟨gaps, hgaps, hscan⟩ :=
    Lexeme.scan_of_gapChars hblanks (Cursor.rest_start (blanks ++ rest))
  have htokens : ofLexemes .outside (Lexeme.ofText (blanks ++ rest))
      = ofLexemes .outside
        (Lexeme.scan ((Cursor.start (blanks ++ rest)).advanceBy blanks.length)) := by
    rw [Lexeme.ofText, hscan, ofLexemes_outside_gaps hgaps]
  refine ⟨definedNames (ofLexemes .outside (Lexeme.ofText (blanks ++ rest))), ?_⟩
  rw [fromCursor, ← htokens]
  rfl

/-- The token consists of a word and nothing else. -/
def IsWhole (word : String) (token : Token) : Prop := token.text = word ∧ token.particle = ""

theorem IsOf.isWhole_iff {token : Token} {lexeme : Lexeme} (h : token.IsOf lexeme)
    (hs : lexeme.Sound) (word : String) :
    token.IsWhole word ↔ lexeme.stem = word.toList ∧ lexeme.particle = none := by
  have htext : token.text.toList = lexeme.stem ++ lexeme.particleChars := h.text_eq
  rw [IsWhole, ← String.toList_inj, htext, Lexeme.particleChars]
  rcases h.particle_cases hs with ⟨hnone, hparticle⟩ | ⟨hsome, hparticle⟩
  · rw [hnone, List.append_nil]
    exact and_congr_right fun _ => iff_of_true hparticle rfl
  · rw [hsome]
    refine iff_of_false (fun hwhole => hparticle hwhole.2) ?_
    intro hbare
    exact Option.some_ne_none _ hbare.2

end Token

/-! ## Words outside of headers -/

namespace Token

/-- The token of the word at a cursor, outside of headers. -/
def wordAt (names : List String) (cur : Cursor) (c : Char) (rest : List Char) : Token :=
  let lexeme := Lexeme.ofReading cur (Lexeme.wordReading c rest)
  markCall names (ofLexeme (Header.wordKind lexeme.stem) lexeme)

section wordAt

variable {cur : Cursor} {c : Char} {rest : List Char}

theorem fromCursor_word (names : List String) (hrest : cur.rest = c :: rest)
    (hc : startsWord c = true) :
    fromCursor names cur
      = wordAt names cur c rest
        :: fromCursor names (Lexeme.after cur (Lexeme.wordReading c rest)) := by
  rw [fromCursor, Lexeme.scan_of_rest_eq_cons hrest, Lexeme.read_of_startsWord hc,
    ofLexemes_outside_word rfl]
  rfl

theorem isWhole_wordAt_iff_take (names : List String) (hrest : cur.rest = c :: rest)
    (hc : startsWord c = true) (word : String) :
    (wordAt names cur c rest).IsWhole word
      ↔ cur.rest.take ((Lexeme.wordEnd c [] rest).1 + 1) = word.toList
        ∧ (Lexeme.wordEnd c [] rest).2 = none := by
  have hr : Lexeme.Reads cur.atLineStart c rest (Lexeme.wordReading c rest) := by
    have hreads := Lexeme.reads_read cur.atLineStart c rest
    rw [Lexeme.read_of_startsWord hc] at hreads
    exact hreads
  have hof : (wordAt names cur c rest).IsOf
      (Lexeme.ofReading cur (Lexeme.wordReading c rest)) :=
    isOf_markCall names (isOf_ofLexeme _ _)
  exact hof.isWhole_iff (Lexeme.sound_ofReading hrest hr) word

/-- **A token is a whole word exactly if the search for its end stops behind the word, and not at a
particle.** -/
theorem isWhole_wordAt_iff (names : List String) (hc : startsWord c = true) {word : String}
    {run later : List Char} (hword : word.toList = c :: run)
    (hrest : cur.rest = c :: (run ++ later)) :
    (wordAt names cur c (run ++ later)).IsWhole word
      ↔ Lexeme.wordEnd c [] (run ++ later) = (run.length, none) := by
  rw [isWhole_wordAt_iff_take names hrest hc, Prod.ext_iff]
  refine and_congr_left fun _ => ?_
  rw [hrest, hword, List.take_succ_cons, List.cons.injEq, eq_self_iff_true, true_and]
  dsimp only
  constructor
  · intro htake
    have hlength := congrArg List.length htake
    rw [List.length_take, Nat.min_eq_left (Lexeme.wordEnd_le_length c [] _)] at hlength
    exact hlength
  · intro hmore
    rw [hmore, List.take_left]

/-- A whole word that spells a keyword is one, and no call. -/
theorem kind_wordAt_of_isWhole (names : List String) (hrest : cur.rest = c :: rest)
    (hc : startsWord c = true) {word : String} (h : (wordAt names cur c rest).IsWhole word)
    {k : Keyword} (hk : Keyword.ofSpelling? word = some k) :
    (wordAt names cur c rest).kind = .keyword k := by
  have hstem := ((isWhole_wordAt_iff_take names hrest hc word).mp h).1
  have hkind : Header.wordKind (cur.rest.take ((Lexeme.wordEnd c [] rest).1 + 1))
      = .keyword k := by
    rw [hstem, Header.wordKind, String.ofList_toList, hk]
  show (markCall names (ofLexeme (Header.wordKind (cur.rest.take _)) _)).kind = _
  rw [show (Lexeme.wordReading c rest).more = (Lexeme.wordEnd c [] rest).1 from rfl, hkind,
    markCall_of_ne_word, kind_ofLexeme]
  rw [kind_ofLexeme]
  exact Kind.noConfusion

end wordAt

end Token

/-! ## Spellings of keywords -/

namespace Lexicon.Keyword

/-- The spellings inside of which the search for the end of a word stops. -/
def cutSpellings : List String := ["増やし繰り返す", "エラーならば"]

/-- Spellings are words, and all but two of them are read as a whole. -/
theorem readsWhole_iff_of_ofSpelling? {spelling : String} {k : Keyword}
    (h : ofSpelling? spelling = some k) :
    Lexeme.IsWord spelling.toList
      ∧ (Lexeme.readsWhole spelling.toList = true ↔ spelling ∉ cutSpellings) := by
  have hwords : spellings.all (fun entry => entry.1.toList.head?.any startsWord
      && entry.1.toList.all isWordChar) = true := by decide +kernel
  have hwhole : spellings.all (fun entry =>
      Lexeme.readsWhole entry.1.toList == !cutSpellings.contains entry.1) = true := by
    decide +kernel
  have hmem := mem_spellings_of_ofSpelling? h
  have hword := List.all_eq_true.mp hwords _ hmem
  have hread := eq_of_beq (List.all_eq_true.mp hwhole _ hmem)
  dsimp only at hword hread
  refine ⟨?_, ?_⟩
  · cases hchars : spelling.toList with
    | nil => rw [hchars] at hword; cases hword
    | cons c run =>
        rw [hchars, Bool.and_eq_true, List.all_cons, Bool.and_eq_true, List.all_eq_true] at hword
        exact ⟨c, run, rfl, hword.1, hword.2.2⟩
  · rw [hread, Bool.not_eq_true', ← Bool.not_eq_true, List.contains_iff_mem]

end Lexicon.Keyword

/-- **A spelling is found as a whole unless it is one of those that are cut.** -/
theorem Token.fromCursor_spelling (names : List String) {spelling : String} {k : Keyword}
    (hk : Keyword.ofSpelling? spelling = some k) {cur : Cursor} {later : List Char}
    (hrest : cur.rest = spelling.toList ++ later)
    (hlater : Lexeme.NoneNext isWordChar later) :
    ∃ token next, Token.fromCursor names cur = token :: Token.fromCursor names next
      ∧ (token.IsWhole spelling ∧ token.kind = .keyword k
        ↔ spelling ∉ Keyword.cutSpellings) := by
  obtain ⟨⟨c, run, hspelling, hc, hrun⟩, hreads⟩ := Keyword.readsWhole_iff_of_ofSpelling? hk
  rw [hspelling, List.cons_append] at hrest
  refine ⟨_, _, Token.fromCursor_word names hrest hc, ?_⟩
  rw [← hreads, hspelling, ← Lexeme.wordEnd_eq_iff_readsWhole hrun hlater,
    ← Token.isWhole_wordAt_iff names hc hspelling hrest]
  exact and_iff_left_of_imp fun hwhole => Token.kind_wordAt_of_isWhole names hrest hc hwhole hk

/--
**A keyword that stands alone is the first token of its text, unless its spelling is cut.**

Blanks and line feeds may stand before it, and behind it anything that could not belong to a word.
-/
theorem tokenize_spelling_iff {spelling : String} {k : Keyword}
    (hk : Keyword.ofSpelling? spelling = some k) {blanks later : List Char}
    (hblanks : ∀ c ∈ blanks, Lexeme.isGapChar c = true)
    (hlater : Lexeme.NoneNext isWordChar later) :
    (∃ token ∈ (tokenize (blanks ++ (spelling.toList ++ later))).head?,
      token.text = spelling ∧ token.kind = .keyword k ∧ token.particle = "")
        ↔ spelling ∉ Keyword.cutSpellings := by
  obtain ⟨names, htokens⟩ := Token.tokenize_eq_fromCursor hblanks (spelling.toList ++ later)
  have hrest : ((Cursor.start (blanks ++ (spelling.toList ++ later))).advanceBy
      blanks.length).rest = spelling.toList ++ later := by
    rw [Cursor.rest_advanceBy, Cursor.rest_start, List.drop_left]
  obtain ⟨token, next, hfirst, hiff⟩ := Token.fromCursor_spelling names hk hrest hlater
  rw [htokens, hfirst, ← hiff]
  constructor
  · rintro ⟨_, hmem, htext, hkind, hparticle⟩
    rw [← Option.some.inj hmem] at htext hkind hparticle
    exact ⟨⟨htext, hparticle⟩, hkind⟩
  · rintro ⟨⟨htext, hparticle⟩, hkind⟩
    exact ⟨token, rfl, htext, hkind, hparticle⟩

/-- The ら of 減らし繰り返す is no particle. -/
theorem tokenize_spelling_iff_counting_down :
    Keyword.ofSpelling? "減らし繰り返す" = some .countDown
      ∧ (∀ c ∈ "\n　".toList, Lexeme.isGapChar c = true)
      ∧ Lexeme.NoneNext isWordChar "。".toList
      ∧ ∃ token ∈ (tokenize ("\n　".toList ++ ("減らし繰り返す".toList ++ "。".toList))).head?,
        token.text = "減らし繰り返す" ∧ token.kind = .keyword .countDown ∧ token.particle = "" := by
  have hk : Keyword.ofSpelling? "減らし繰り返す" = some .countDown := by decide +kernel
  have hblanks : ∀ c ∈ "\n　".toList, Lexeme.isGapChar c = true := by
    rw [← List.all_eq_true]
    decide +kernel
  have hlater : Lexeme.NoneNext isWordChar "。".toList := by
    intro c hc
    rw [← Option.some.inj hc]
    decide +kernel
  exact ⟨hk, hblanks, hlater, (tokenize_spelling_iff hk hblanks hlater).mpr (by decide)⟩

/-- The や of 増やし繰り返す is taken for a particle, and ならば is cut off エラーならば. -/
theorem tokenize_spelling_cut :
    Keyword.ofSpelling? "増やし繰り返す" = some .countUp
      ∧ (tokenize "増やし繰り返す".toList).map
          (fun token => (token.text, token.kind, token.particle))
        = [("増や", .word, "や"), ("し繰り返す", .word, "")]
      ∧ Keyword.ofSpelling? "エラーならば" = some .onError
      ∧ (tokenize "エラーならば".toList).map
          (fun token => (token.text, token.kind, token.particle))
        = [("エラー", .word, ""), ("ならば", .keyword .consequent, "")] := by
  decide +kernel

/-! ## Keywords behind words -/

/-- Of the keywords that may follow a word, one starts with a particle. -/
theorem particle?_name_of_mem_suffixes :
    ∀ k ∈ Keyword.suffixes, particle? k.name.toList = none ↔ k ≠ .negatedConsequent := by
  decide

/-- **A word without hiragana ends before a keyword that may follow it, and takes a particle from it
if it can.** -/
theorem Token.fromCursor_before_suffix (names : List String) {word : String} {c : Char}
    {run : List Char} (hchars : word.toList = c :: run) (hc : startsWord c = true)
    (hword : ∀ d ∈ c :: run, isWordChar d = true ∧ isHiragana d = false) {k : Keyword}
    (hk : k ∈ Keyword.suffixes) {cur : Cursor} {later : List Char}
    (hrest : cur.rest = c :: (run ++ (k.name.toList ++ later)))
    (hlater : Lexeme.NoneNext isWordChar later) :
    ∃ token next, Token.fromCursor names cur = token :: Token.fromCursor names next
      ∧ (token.IsWhole word ↔ k ≠ .negatedConsequent)
      ∧ (k ≠ .negatedConsequent → next.rest = k.name.toList ++ later) := by
  obtain ⟨⟨_, hfirst⟩, hrun⟩ := List.forall_mem_cons.mp hword
  have hend : Lexeme.wordEnd c [] (run ++ (k.name.toList ++ later))
      = (run.length, particle? k.name.toList) := by
    rw [Lexeme.wordEnd_append_suffix hfirst hrun hk,
      Lexeme.particle?_append (Lexeme.isWordChar_of_mem_suffixes k hk) hlater]
  have hnone := particle?_name_of_mem_suffixes k hk
  refine ⟨_, _, Token.fromCursor_word names hrest hc, ?_, ?_⟩
  · rw [Token.isWhole_wordAt_iff names hc hchars hrest, hend, ← hnone, Prod.mk.injEq,
      eq_self_iff_true, true_and]
  · intro hne
    -- without a particle the cursor is right behind the word
    rw [hnone.mpr hne] at hend
    rw [Lexeme.after, Lexeme.wordReading, hend, Cursor.rest_advanceBy, Cursor.rest_advanceBy, hrest,
      List.drop_succ_cons]
    exact List.drop_left

/--
**A keyword that may follow a word is cut off a word without hiragana, unless it is でなければ.**

The word is then a token without a particle, and the keyword is the next token. The word may contain
digits but not start with one, and behind the keyword anything may stand that could not belong to a
word.
-/
theorem tokenize_suffix_iff {word : String} (hne : word ≠ "")
    (hword : ∀ c ∈ word.toList, isWordChar c = true ∧ isHiragana c = false)
    (hdigit : Lexeme.NoneNext isDigit word.toList) {k : Keyword} (hk : k ∈ Keyword.suffixes)
    {later : List Char} (hlater : Lexeme.NoneNext isWordChar later) :
    (∃ first second others,
      tokenize (word.toList ++ (k.name.toList ++ later)) = first :: second :: others
        ∧ first.text = word ∧ first.particle = ""
        ∧ second.text = k.name ∧ second.kind = .keyword k ∧ second.particle = "")
      ↔ k ≠ .negatedConsequent := by
  cases hchars : word.toList with
  | nil => exact absurd (String.toList_inj.mp hchars) hne
  | cons c run =>
      rw [hchars] at hword hdigit
      have hc : startsWord c = true := by
        rw [startsWord, (hword c (List.mem_cons_self ..)).1, hdigit c rfl]
        rfl
      obtain ⟨names, htokens⟩ := Token.tokenize_eq_fromCursor
        (List.forall_mem_nil _) (c :: run ++ (k.name.toList ++ later))
      obtain ⟨first, next, hfirst, hwhole, hnext⟩ :=
        Token.fromCursor_before_suffix names hchars hc hword hk (Cursor.rest_start _) hlater
      rw [List.nil_append] at htokens
      rw [htokens.trans hfirst]
      constructor
      · rintro ⟨_, second, others, hsame, htext, hparticle, _⟩
        rw [← (List.cons.inj hsame).1] at htext hparticle
        exact hwhole.mp ⟨htext, hparticle⟩
      · intro hother
        have huncut : ∀ k ∈ Keyword.suffixes, k.name ∉ Keyword.cutSpellings := by decide
        obtain ⟨second, last, hsecond, hiff⟩ := Token.fromCursor_spelling names
          (Keyword.ofSpelling?_name k) (hnext hother) hlater
        obtain ⟨htext, hparticle⟩ := hwhole.mpr hother
        obtain ⟨⟨htext', hparticle'⟩, hkind⟩ := hiff.mpr (huncut k hk)
        exact ⟨first, second, _, by rw [hsecond], htext, hparticle, htext', hkind, hparticle'⟩

/-- Digits may be in the word, and ならば is found as a whole though なら is a spelling too. -/
theorem tokenize_suffix_iff_consequent :
    (∀ c ∈ "値2".toList, isWordChar c = true ∧ isHiragana c = false)
      ∧ Lexeme.NoneNext isDigit "値2".toList
      ∧ Lexeme.NoneNext isWordChar "、".toList
      ∧ ∃ first second others,
        tokenize ("値2".toList ++ ("ならば".toList ++ "、".toList)) = first :: second :: others
          ∧ first.text = "値2" ∧ first.particle = ""
          ∧ second.text = "ならば" ∧ second.kind = .keyword .consequent
          ∧ second.particle = "" := by
  have hword : ∀ c ∈ "値2".toList, isWordChar c = true ∧ isHiragana c = false := by
    have hall : "値2".toList.all (fun c => isWordChar c && !isHiragana c) = true := by
      decide +kernel
    intro c hc
    have hchar := List.all_eq_true.mp hall c hc
    rw [Bool.and_eq_true, Bool.not_eq_true'] at hchar
    exact hchar
  have hdigit : Lexeme.NoneNext isDigit "値2".toList := by
    intro c hc
    rw [← Option.some.inj hc]
    decide +kernel
  have hlater : Lexeme.NoneNext isWordChar "、".toList := by
    intro c hc
    rw [← Option.some.inj hc]
    decide +kernel
  have hk : Keyword.consequent ∈ Keyword.suffixes := by decide
  exact ⟨hword, hdigit, hlater,
    (tokenize_suffix_iff (by decide) hword hdigit hk hlater).mpr (by decide)⟩

/-- The で of でなければ is taken for a particle of the word before it, and what is left is no
keyword. -/
theorem tokenize_suffix_particle :
    Keyword.negatedConsequent ∈ Keyword.suffixes
      ∧ Keyword.ofSpelling? "Aでなければ" = none
      ∧ (tokenize "Aでなければ".toList).map
          (fun token => (token.text, token.kind, token.particle))
        = [("Aで", .word, "で"), ("なければ", .word, "")] := by
  decide +kernel

end Nadesiko
