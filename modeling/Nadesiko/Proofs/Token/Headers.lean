import Mathlib
import Nadesiko.Proofs.Token.Layout
import Nadesiko.Proofs.Highlight.Shown

/-!
# The kinds of words

While tokens are made, a header is carried along that knows whether brackets are open and whether
the function has been named, and calls are marked when all tokens are there. The tokens that come
out tell the same story without any of this. Whether a word stands in a header shows in the last
mark of a definition before it and in the gaps since then, and where in the header it stands shows
in the brackets and the names since then.

`Header.Fits` says that what is carried along is what the tokens show. One token and its gap keep it
so, and therefore all tokens before a word do.
-/

namespace Nadesiko

open Text Lexicon

/-! ## What the tokens show -/

/-- Whether a token is the mark of a definition. -/
def Piece.isMark (piece : Piece) : Bool := piece.token.kind == .definition

/-- The last mark of a definition. -/
def lastMark? (earlier : List Piece) : Option Piece := earlier.reverse.find? Piece.isMark

/-- What stands behind the last mark of a definition, or everything if there is none. -/
def sinceMark (earlier : List Piece) : List Piece := earlier.rtakeWhile (fun piece => !piece.isMark)

/-- Behind these tokens a header is open: there is a mark of a definition, and no line feed in a gap
since then. -/
def InHeader (earlier : List Piece) : Prop :=
  ∃ mark ∈ lastMark? earlier, ∀ piece ∈ mark :: sinceMark earlier, '\n' ∉ piece.gap

/-- Whether brackets are open behind a token, if it is known whether they were before it. -/
def Piece.bracketsAfter (inside : Bool) (piece : Piece) : Bool :=
  match piece.token.kind with
  | .operator .leftParen | .operator .wideLeftParen => true
  | .operator .rightParen | .operator .wideRightParen => false
  | _ => inside

/-- Whether brackets are open behind these tokens, when none were before them. Brackets do not
nest. -/
def inBrackets (pieces : List Piece) : Bool := pieces.foldl Piece.bracketsAfter false

/-- Whether the name of a function is among these tokens. -/
def namesFunction (pieces : List Piece) : Bool :=
  pieces.any (fun piece => piece.token.kind == .functionName)

/-- The kind of a word outside of headers, or in one that is named: it is a keyword, a built-in
name, a call of one of the functions that the tokens define, or nothing special. -/
def plainKind (tokens : List Token) (stem : String) : Kind :=
  match Keyword.ofSpelling? stem with
  | some k => .keyword k
  | none =>
    match Builtin.ofWord? stem.toList with
    | some b => .builtin b
    | none =>
      if ∃ token ∈ tokens, token.kind = .functionName ∧ token.stem = stem then .userFunction
      else .word

/-- The kind of a word is what its header and its spelling make of it. -/
structure Token.HasWordKind (token : Token) (tokens : List Token) (earlier : List Piece) :
    Prop where
  /-- The words in the brackets of a header are its parameters. -/
  argument_iff : token.kind = .argument ↔ InHeader earlier ∧ inBrackets (sinceMark earlier) = true
  /-- The first word outside of its brackets is the name of the function. -/
  functionName_iff : token.kind = .functionName
    ↔ InHeader earlier ∧ inBrackets (sinceMark earlier) = false
      ∧ ∀ piece ∈ sinceMark earlier, piece.token.kind ≠ .functionName
  /-- All others are what they are without a header. -/
  kind_eq : token.kind ≠ .argument → token.kind ≠ .functionName →
    token.kind = plainKind tokens token.stem

/-! ## One more token -/

section concat

variable {earlier : List Piece} {piece : Piece}

theorem lastMark?_concat_mark (h : piece.isMark = true) :
    lastMark? (earlier ++ [piece]) = some piece := by
  simp [lastMark?, h]

theorem lastMark?_concat (h : piece.isMark = false) :
    lastMark? (earlier ++ [piece]) = lastMark? earlier := by
  simp [lastMark?, h]

theorem sinceMark_concat_mark (h : piece.isMark = true) : sinceMark (earlier ++ [piece]) = [] := by
  rw [sinceMark, List.rtakeWhile_concat, if_neg (by simp [h])]

theorem sinceMark_concat (h : piece.isMark = false) :
    sinceMark (earlier ++ [piece]) = sinceMark earlier ++ [piece] := by
  rw [sinceMark, List.rtakeWhile_concat, if_pos (by simp [h])]
  rfl

/-- A mark opens a header. -/
theorem inHeader_concat_mark (h : piece.isMark = true) :
    InHeader (earlier ++ [piece]) ↔ '\n' ∉ piece.gap := by
  rw [InHeader, lastMark?_concat_mark h, sinceMark_concat_mark h]
  simp

/-- Behind any other token a header is open if it was before. -/
theorem inHeader_concat (h : piece.isMark = false) :
    InHeader (earlier ++ [piece]) ↔ InHeader earlier ∧ '\n' ∉ piece.gap := by
  rw [InHeader, lastMark?_concat h, sinceMark_concat h]
  constructor
  · intro hopen
    obtain ⟨mark, hmark, hgaps⟩ := hopen
    rw [← List.cons_append, List.forall_mem_append, List.forall_mem_singleton] at hgaps
    exact ⟨⟨mark, hmark, hgaps.1⟩, hgaps.2⟩
  · intro hopen
    obtain ⟨⟨mark, hmark, hgaps⟩, hgap⟩ := hopen
    refine ⟨mark, hmark, ?_⟩
    rw [← List.cons_append, List.forall_mem_append, List.forall_mem_singleton]
    exact ⟨hgaps, hgap⟩

theorem inBrackets_concat (pieces : List Piece) (piece : Piece) :
    inBrackets (pieces ++ [piece]) = piece.bracketsAfter (inBrackets pieces) := by
  rw [inBrackets, List.foldl_append]
  rfl

theorem namesFunction_concat (pieces : List Piece) (piece : Piece) :
    namesFunction (pieces ++ [piece])
      = (namesFunction pieces || piece.token.kind == .functionName) := by
  simp [namesFunction]

end concat

/-! ## What is carried along -/

namespace Header

/-- Inside or outside of brackets, with or without a name. -/
def opened (inside named : Bool) : Header := if inside then .parameters named else .heading named

/-- A header is what the tokens before it show. -/
def Fits (header : Header) (earlier : List Piece) : Prop :=
  (¬ InHeader earlier ∧ header = .outside)
    ∨ (InHeader earlier
      ∧ header = opened (inBrackets (sinceMark earlier)) (namesFunction (sinceMark earlier)))

/-- In a header, a token that is not the mark of another one opens or closes brackets, or names the
function, or does nothing. -/
theorem afterKind_opened {piece : Piece} (h : piece.isMark = false) (inside named : Bool) :
    (opened inside named).afterKind piece.token.kind
      = opened (piece.bracketsAfter inside)
        (named || piece.token.kind == .functionName) := by
  unfold Piece.isMark at h
  unfold Piece.bracketsAfter
  cases hk : piece.token.kind with
  | definition => rw [hk] at h; cases h
  | operator op => cases op <;> cases inside <;> cases named <;> rfl
  | _ => cases inside <;> cases named <;> rfl

theorem afterKind_outside {piece : Piece} (h : piece.isMark = false) :
    Header.outside.afterKind piece.token.kind = .outside := by
  unfold Piece.isMark at h
  cases hk : piece.token.kind with
  | definition => rw [hk] at h; cases h
  | _ => rfl

/-- **One token and the gap behind it.** -/
theorem fits_past {header : Header} {earlier : List Piece} (h : header.Fits earlier)
    (piece : Piece) : (header.past piece).Fits (earlier ++ [piece]) := by
  unfold past overGap
  by_cases hgap : '\n' ∈ piece.gap
  · -- a line feed closes every header
    rw [if_pos hgap]
    refine Or.inl ⟨?_, rfl⟩
    intro hopen
    cases hmark : piece.isMark with
    | true => exact (inHeader_concat_mark hmark).mp hopen hgap
    | false => exact ((inHeader_concat hmark).mp hopen).2 hgap
  rw [if_neg hgap]
  cases hmark : piece.isMark with
  | true =>
      -- a mark opens a new one, without brackets and without a name
      have hkind : piece.token.kind = .definition := beq_iff_eq.mp hmark
      refine Or.inr ⟨(inHeader_concat_mark hmark).mpr hgap, ?_⟩
      rw [hkind, sinceMark_concat_mark hmark]
      rfl
  | false =>
      rcases h with ⟨hclosed, hheader⟩ | ⟨hopen, hheader⟩
      · rw [hheader, afterKind_outside hmark]
        refine Or.inl ⟨?_, rfl⟩
        intro hopen
        exact hclosed ((inHeader_concat hmark).mp hopen).1
      · refine Or.inr ⟨(inHeader_concat hmark).mpr ⟨hopen, hgap⟩, ?_⟩
        rw [hheader, afterKind_opened hmark, sinceMark_concat hmark, inBrackets_concat,
          namesFunction_concat]

/-- **All tokens before a place.** -/
theorem fits_foldl_past (earlier : List Piece) :
    (earlier.foldl past .outside).Fits earlier := by
  induction earlier using List.reverseRecOn with
  | nil => exact Or.inl ⟨by simp [InHeader, lastMark?], rfl⟩
  | append_singleton earlier piece ih =>
      rw [List.foldl_append]
      exact fits_past ih piece

end Header

/-! ## Words -/

theorem mem_definedNames_iff {tokens : List Token} {stem : String} :
    stem ∈ Token.definedNames tokens
      ↔ ∃ token ∈ tokens, token.kind = .functionName ∧ token.stem = stem := by
  simp [Token.definedNames, and_assoc]

theorem plainKind_ne (tokens : List Token) (stem : String) :
    plainKind tokens stem ≠ .argument ∧ plainKind tokens stem ≠ .functionName := by
  unfold plainKind
  split
  · simp
  · split
    · simp
    · split <;> simp

/-- Without a header, the kind of a word follows from its spelling and from the functions there
are. -/
theorem Token.kind_markCall_wordKind (tokens : List Token) {lexeme : Lexeme} (hs : lexeme.Sound) :
    (markCall (definedNames tokens) (ofLexeme (Header.wordKind lexeme.stem) lexeme)).kind
      = plainKind tokens (String.ofList lexeme.stem) := by
  have hstem : (ofLexeme (Header.wordKind lexeme.stem) lexeme).stem
      = String.ofList lexeme.stem := by
    rw [← String.toList_inj, (isOf_ofLexeme _ _).stem_eq hs, String.toList_ofList]
  have hkind := kind_ofLexeme (Header.wordKind lexeme.stem) lexeme
  unfold plainKind
  rw [String.toList_ofList]
  generalize hread : ofLexeme (Header.wordKind lexeme.stem) lexeme = read at hstem hkind ⊢
  unfold Header.wordKind at hkind
  cases hkeyword : Keyword.ofSpelling? (String.ofList lexeme.stem) with
  | some k =>
      rw [hkeyword] at hkind
      rw [markCall_of_ne_word _ (by rw [hkind]; simp), hkind]
  | none =>
      rw [hkeyword] at hkind
      cases hbuiltin : Builtin.ofWord? lexeme.stem with
      | some b =>
          rw [hbuiltin] at hkind
          rw [markCall_of_ne_word _ (by rw [hkind]; simp), hkind]
      | none =>
          rw [hbuiltin] at hkind
          rw [markCall_of_word _ hkind, hstem]
          simp only [withKind, mem_definedNames_iff]

theorem namesFunction_eq_false_iff {pieces : List Piece} :
    namesFunction pieces = false ↔ ∀ piece ∈ pieces, piece.token.kind ≠ .functionName := by
  simp [namesFunction]

theorem Token.stem_markCall_ofLexeme (names : List String) (kind : Kind) {lexeme : Lexeme}
    (hs : lexeme.Sound) :
    (markCall names (ofLexeme kind lexeme)).stem = String.ofList lexeme.stem := by
  have hof := isOf_markCall names (isOf_ofLexeme kind lexeme)
  rw [← String.toList_inj, hof.stem_eq hs, String.toList_ofList]

theorem Token.kind_markCall_ofLexeme {kind : Kind} (h : kind ≠ .word) (names : List String)
    (lexeme : Lexeme) : (markCall names (ofLexeme kind lexeme)).kind = kind := by
  rw [markCall_of_ne_word names (by rw [kind_ofLexeme]; exact h), kind_ofLexeme]

section hasWordKind

variable {token : Token} {tokens : List Token} {earlier : List Piece}

theorem Token.hasWordKind_of_argument (hkind : token.kind = .argument) (hopen : InHeader earlier)
    (hin : inBrackets (sinceMark earlier) = true) : token.HasWordKind tokens earlier := by
  refine ⟨iff_of_true hkind ⟨hopen, hin⟩, ?_, fun hne _ => absurd hkind hne⟩
  rw [hkind, hin]
  simp

theorem Token.hasWordKind_of_functionName (hkind : token.kind = .functionName)
    (hopen : InHeader earlier) (hin : inBrackets (sinceMark earlier) = false)
    (hnone : ∀ piece ∈ sinceMark earlier, piece.token.kind ≠ .functionName) :
    token.HasWordKind tokens earlier := by
  refine ⟨?_, iff_of_true hkind ⟨hopen, hin, hnone⟩, fun _ hne => absurd hkind hne⟩
  rw [hkind, hin]
  simp

/-- Where no header decides, a word has its plain kind. -/
theorem Token.hasWordKind_of_plain (hkind : token.kind = plainKind tokens token.stem)
    (hargument : ¬ (InHeader earlier ∧ inBrackets (sinceMark earlier) = true))
    (hname : ¬ (InHeader earlier ∧ inBrackets (sinceMark earlier) = false
      ∧ ∀ piece ∈ sinceMark earlier, piece.token.kind ≠ .functionName)) :
    token.HasWordKind tokens earlier := by
  obtain ⟨hneArgument, hneName⟩ := plainKind_ne tokens token.stem
  rw [← hkind] at hneArgument hneName
  exact ⟨iff_of_false hneArgument hargument, iff_of_false hneName hname, fun _ _ => hkind⟩

end hasWordKind

/-- A word in the header that the tokens before it show has the kind that they make of it. -/
theorem Token.hasWordKind_of_fits {header : Header} {earlier : List Piece}
    (hfits : header.Fits earlier) (tokens : List Token) {lexeme : Lexeme} (hs : lexeme.Sound) :
    (markCall (definedNames tokens)
      (ofLexeme (header.wordKindIn lexeme.stem) lexeme)).HasWordKind tokens earlier := by
  have hplain := kind_markCall_wordKind tokens hs
  rw [← stem_markCall_ofLexeme (definedNames tokens) (Header.wordKind lexeme.stem) hs] at hplain
  rcases hfits with ⟨hclosed, hheader⟩ | ⟨hopen, hheader⟩
  · rw [hheader]
    exact hasWordKind_of_plain hplain (fun h => hclosed h.1) (fun h => hclosed h.1)
  rw [hheader]
  cases hin : inBrackets (sinceMark earlier) with
  | true =>
      have hne : Kind.argument ≠ .word := by simp
      exact hasWordKind_of_argument (kind_markCall_ofLexeme hne _ lexeme) hopen hin
  | false =>
      cases hnamed : namesFunction (sinceMark earlier) with
      | false =>
          have hne : Kind.functionName ≠ .word := by simp
          exact hasWordKind_of_functionName (kind_markCall_ofLexeme hne _ lexeme) hopen hin
            (namesFunction_eq_false_iff.mp hnamed)
      | true =>
          -- the name has been read, so the header has no say any more
          refine hasWordKind_of_plain hplain (fun h => ?_) (fun h => ?_)
          · rw [hin] at h
            cases h.2
          · rw [namesFunction_eq_false_iff.mpr h.2.2] at hnamed
            cases hnamed

/--
**The kind of a word follows from the tokens of the text and the gaps between them.**

It is a parameter or the name of a function exactly if the tokens since the last mark of a
definition say so. Otherwise it is a keyword, a built-in name, a call of a function that is named
anywhere in the text, or nothing special. Line feeds inside of tokens do not matter, only those in
gaps do.
-/
theorem tokenize_hasWordKind (text : List Char) :
    ∃ first pieces, IsLayout text first pieces
      ∧ ∀ earlier piece later, pieces = earlier ++ piece :: later →
        (∃ c ∈ piece.token.text.toList.head?, startsWord c = true) →
        piece.token.HasWordKind (tokenize text) earlier := by
  obtain ⟨first, pieces, hlayout, hpieces⟩ := exists_layout text
  refine ⟨first, pieces, hlayout, ?_⟩
  intro earlier piece later hsplit hstarts
  obtain ⟨lexeme, kind, hs, hwritten, hkind, htoken⟩ := hpieces earlier piece later hsplit
  obtain ⟨c, hc, hstarts⟩ := hstarts
  have hfirst : c ∈ lexeme.stem.head? := by
    rw [htoken, Token.text_markCall, Token.text_ofLexeme, String.toList_ofList, Lexeme.text,
      List.head?_append_of_ne_nil _ hs.stem_ne_nil] at hc
    exact hc
  have hword := (hwritten.word_iff c hfirst).mpr hstarts
  rw [Header.kind?, hword] at hkind
  rw [htoken, ← Option.some.inj hkind]
  exact Token.hasWordKind_of_fits (Header.fits_foldl_past earlier) (tokenize text) hs

/-- The header goes on behind a string with a line feed in it, and the call comes before the
definition. -/
example : (tokenize "加算\n●「あ\n」（Aを）加算 足す\n足す".toList).map (fun token => token.kind.name)
    = ["user_func", "def_func", "string", "（", "arg", "）", "func", "sys_func", "sys_func"] := by
  decide +kernel

end Nadesiko
