import Mathlib
import Nadesiko.Proofs.Lexeme.Grammar
import Nadesiko.Proofs.Token.Locality

/-!
# Tokens and the gaps between them

A token says where it stands by its position, but what is written around it is in the text. So the
text is laid out: a first gap, and then the tokens in order, each with the gap behind it. Every
token then has all that stands before it and all that comes after it.

Headers can be followed along such a layout. A header is opened by a token and changed by tokens,
and it ends with the first gap that holds a line feed; the lexemes of which tokens and gaps are made
are not needed for that.
-/

namespace Nadesiko

open Text Lexicon

/-- A token with the gap behind it. -/
structure Piece where
  token : Token
  gap : List Char

/-- The characters of a token and of the gap behind it. -/
def Piece.chars (piece : Piece) : List Char := piece.token.text.toList ++ piece.gap

/-- A text as a first gap and its tokens in order, each with the gap behind it. -/
structure IsLayout (text first : List Char) (pieces : List Piece) : Prop where
  /-- The tokens are those of the text. -/
  tokens_eq : pieces.map Piece.token = tokenize text
  /-- Together with the gaps they are the text. -/
  text_eq : text = first ++ pieces.flatMap Piece.chars
  /-- Gaps hold blanks and line feeds only. -/
  gaps : ∀ gap ∈ first :: pieces.map Piece.gap, ∀ c ∈ gap, Lexeme.isGapChar c = true

/-! ## Headers along a layout -/

namespace Header

/-- Where the next token stands, as far as a token of some kind decides about it. -/
def afterKind (header : Header) : Kind → Header
  | .definition => .heading false
  | .operator op => header.afterOperator op
  | .functionName =>
    match header with
    | .outside => .outside
    | .heading _ => .heading true
    | .parameters _ => .parameters true
  | _ => header

/-- Headers end with their line. -/
def overGap (header : Header) (gap : List Char) : Header :=
  if '\n' ∈ gap then .outside else header

/-- Where the token behind a token and its gap stands. -/
def past (header : Header) (piece : Piece) : Header :=
  (header.afterKind piece.token.kind).overGap piece.gap

theorem afterKind_wordKind (header : Header) (stem : List Char) :
    header.afterKind (wordKind stem) = header := by
  unfold wordKind
  split
  · rfl
  · split <;> rfl

/-- The kind of a token says all about it that matters for headers. -/
theorem next_eq_afterKind {header : Header} {lexeme : Lexeme} {kind : Kind}
    (h : header.kind? lexeme = some kind) : header.next lexeme = header.afterKind kind := by
  unfold kind? at h
  unfold next
  cases hs : lexeme.shape with
  | word =>
      rw [hs] at h
      dsimp only at h ⊢
      rw [← Option.some.inj h]
      cases header with
      | outside => exact (afterKind_wordKind _ _).symm
      | parameters named => rfl
      | heading named =>
          cases named with
          | false => rfl
          | true => exact (afterKind_wordKind _ _).symm
  | _ =>
      rw [hs] at h
      cases h <;> rfl

/-- Calls are words, and do not matter for headers either. -/
theorem afterKind_markCall (header : Header) (names : List String) (token : Token) :
    header.afterKind (Token.markCall names token).kind = header.afterKind token.kind := by
  by_cases hword : token.kind = .word
  · rw [Token.markCall_of_word names hword, hword]
    dsimp only [Token.withKind]
    split <;> rfl
  · rw [Token.markCall_of_ne_word names hword]

theorem outside_overGap (gap : List Char) : Header.outside.overGap gap = .outside := by
  unfold overGap
  split <;> rfl

/-- A gap of several lexemes counts like the lexemes one after the other. -/
theorem overGap_append {header : Header} {lexeme : Lexeme} (hgap : lexeme.shape.isGap = true)
    (hbreak : lexeme.shape = .lineBreak ↔ '\n' ∈ lexeme.text) (gap : List Char) :
    header.overGap (lexeme.text ++ gap) = (header.next lexeme).overGap gap := by
  by_cases hline : lexeme.shape = .lineBreak
  · have hnext : header.next lexeme = .outside := by rw [next, hline]
    rw [hnext, outside_overGap, overGap, if_pos (List.mem_append_left _ (hbreak.mp hline))]
  · have hblank : lexeme.shape = .blank := by
      cases hs : lexeme.shape <;> simp_all [Lexeme.Shape.isGap]
    have hnext : header.next lexeme = header := by rw [next, hblank]
    have hnone : '\n' ∉ lexeme.text := fun h => hline (hbreak.mpr h)
    rw [hnext, overGap, overGap]
    simp only [List.mem_append, hnone, false_or]

end Header

/-! ## Laying out lexemes -/

namespace Token

/-- The first gap and the tokens of a list of lexemes of which the first stands in the given header,
when functions of the given names are there to be called. -/
def layOut (names : List String) (header : Header) : List Lexeme → List Char × List Piece
  | [] => ([], [])
  | lexeme :: later =>
    let (gap, pieces) := layOut names (header.next lexeme) later
    match header.kind? lexeme with
    | none => (lexeme.text ++ gap, pieces)
    | some kind => ([], ⟨markCall names (ofLexeme kind lexeme), gap⟩ :: pieces)

section layOut

variable {names : List String} {header : Header} {lexeme : Lexeme} {lexemes : List Lexeme}
  {first : List Char} {pieces : List Piece}

theorem layOut_cons_of_none (h : header.kind? lexeme = none)
    (hlater : layOut names (header.next lexeme) lexemes = (first, pieces)) :
    layOut names header (lexeme :: lexemes) = (lexeme.text ++ first, pieces) := by
  rw [layOut, hlater, h]

theorem layOut_cons_of_some {kind : Kind} (h : header.kind? lexeme = some kind)
    (hlater : layOut names (header.next lexeme) lexemes = (first, pieces)) :
    layOut names header (lexeme :: lexemes)
      = ([], ⟨markCall names (ofLexeme kind lexeme), first⟩ :: pieces) := by
  rw [layOut, hlater, h]

theorem text_markCall (names : List String) (token : Token) :
    (markCall names token).text = token.text := by
  unfold markCall
  split <;> rfl

/-- What is laid out are the tokens of the lexemes, and all their characters. -/
theorem of_layOut (hs : ∀ lexeme ∈ lexemes, lexeme.Sound)
    (h : layOut names header lexemes = (first, pieces)) :
    pieces.map Piece.token = (ofLexemes header lexemes).map (markCall names)
      ∧ lexemes.flatMap Lexeme.text = first ++ pieces.flatMap Piece.chars
      ∧ ∀ gap ∈ first :: pieces.map Piece.gap, ∀ c ∈ gap, Lexeme.isGapChar c = true := by
  induction lexemes generalizing header first pieces with
  | nil =>
      cases h
      refine ⟨rfl, rfl, ?_⟩
      simp
  | cons lexeme later ih =>
      rw [List.forall_mem_cons] at hs
      obtain ⟨gap, others, hlater⟩ : ∃ gap others,
        layOut names (header.next lexeme) later = (gap, others) := ⟨_, _, rfl⟩
      obtain ⟨htokens, htext, hgaps⟩ := ih hs.2 hlater
      rw [ofLexemes, List.flatMap_cons, htext]
      cases hk : header.kind? lexeme with
      | none =>
          rw [layOut_cons_of_none hk hlater] at h
          obtain ⟨rfl, rfl⟩ := Prod.mk.inj h
          refine ⟨htokens, (List.append_assoc ..).symm, ?_⟩
          rw [List.forall_mem_cons] at hgaps ⊢
          refine ⟨?_, hgaps.2⟩
          rw [List.forall_mem_append]
          exact ⟨hs.1.gap_chars (Header.kind?_eq_none_iff.mp hk), hgaps.1⟩
      | some kind =>
          rw [layOut_cons_of_some hk hlater] at h
          obtain ⟨rfl, rfl⟩ := Prod.mk.inj h
          dsimp only
          refine ⟨by rw [List.map_cons, List.map_cons, htokens], ?_, ?_⟩
          · rw [List.nil_append, List.flatMap_cons, Piece.chars, text_markCall, text_ofLexeme,
              String.toList_ofList, List.append_assoc]
          · rw [List.forall_mem_cons]
            exact ⟨by simp, hgaps⟩

/-- **Every token of a layout is made of a lexeme that stands in the same place, in the header that
the tokens before it leave open.** -/
theorem exists_lexeme_of_layOut (hs : ∀ lexeme ∈ lexemes, lexeme.Sound)
    (hbreak : ∀ lexeme ∈ lexemes, lexeme.shape.isGap = true →
      (lexeme.shape = .lineBreak ↔ '\n' ∈ lexeme.text))
    {earlier later : List Piece} {piece : Piece}
    (h : layOut names header lexemes = (first, earlier ++ piece :: later)) :
    ∃ front lexeme back kind, lexemes = front ++ lexeme :: back
      ∧ front.flatMap Lexeme.text = first ++ earlier.flatMap Piece.chars
      ∧ back.flatMap Lexeme.text = piece.gap ++ later.flatMap Piece.chars
      ∧ (earlier.foldl Header.past (header.overGap first)).kind? lexeme = some kind
      ∧ piece.token = markCall names (ofLexeme kind lexeme) := by
  induction lexemes generalizing header first earlier with
  | nil =>
      have hpieces := (Prod.mk.inj h).2
      exact absurd hpieces.symm (by simp)
  | cons lexeme lexemes ih =>
      rw [List.forall_mem_cons] at hs hbreak
      obtain ⟨gap, others, hlater⟩ : ∃ gap others,
        layOut names (header.next lexeme) lexemes = (gap, others) := ⟨_, _, rfl⟩
      cases hk : header.kind? lexeme with
      | none =>
          rw [layOut_cons_of_none hk hlater] at h
          obtain ⟨rfl, rfl⟩ := Prod.mk.inj h
          obtain ⟨front, other, back, kind, hsplit, hfront, hback, hkind, htoken⟩ :=
            ih hs.2 hbreak.2 hlater
          have hgap := Header.kind?_eq_none_iff.mp hk
          refine ⟨lexeme :: front, other, back, kind, ?_, ?_, hback, ?_, htoken⟩
          · rw [hsplit, List.cons_append]
          · rw [List.flatMap_cons, hfront, List.append_assoc]
          · rw [Header.overGap_append hgap (hbreak.1 hgap)]
            exact hkind
      | some kind =>
          rw [layOut_cons_of_some hk hlater] at h
          obtain ⟨rfl, hpieces⟩ := Prod.mk.inj h
          cases earlier with
          | nil =>
              -- the lexeme in front is the one that is asked for
              obtain ⟨rfl, rfl⟩ := List.cons.inj hpieces
              exact ⟨[], lexeme, lexemes, kind, rfl, rfl, (of_layOut hs.2 hlater).2.1, hk, rfl⟩
          | cons other earlier =>
              obtain ⟨rfl, rfl⟩ := List.cons.inj hpieces
              obtain ⟨front, found, back, kind', hsplit, hfront, hback, hkind, htoken⟩ :=
                ih hs.2 hbreak.2 hlater
              refine ⟨lexeme :: front, found, back, kind', ?_, ?_, hback, ?_, htoken⟩
              · rw [hsplit, List.cons_append]
              · rw [List.flatMap_cons, hfront, List.flatMap_cons, Piece.chars, text_markCall,
                  text_ofLexeme, String.toList_ofList, List.nil_append, List.append_assoc]
              · have hpast : header.past ⟨markCall names (ofLexeme kind lexeme), gap⟩
                    = (header.next lexeme).overGap gap := by
                  rw [Header.past, Header.afterKind_markCall, kind_ofLexeme,
                    Header.next_eq_afterKind hk]
                rw [List.foldl_cons, show header.overGap [] = header from rfl, hpast]
                exact hkind

end layOut

end Token

/-! ## Laying out a text -/

theorem Lexeme.written_of_ofText_eq {text : List Char} {front back : List Lexeme} {lexeme : Lexeme}
    (h : Lexeme.ofText text = front ++ lexeme :: back) :
    lexeme.Written (front.flatMap Lexeme.text) (back.flatMap Lexeme.text) := by
  have hstart : (Cursor.start text).atLineStart = true ↔ EndsInBlankLine [] :=
    iff_of_true rfl (by simp [EndsInBlankLine, lastLine])
  exact Lexeme.written_of_scan_eq hstart h

/-- Of the gaps, exactly the line breaks are written with a line feed. -/
theorem Lexeme.shape_eq_lineBreak_iff {text : List Char} {lexeme : Lexeme}
    (h : lexeme ∈ Lexeme.ofText text) (hgap : lexeme.shape.isGap = true) :
    lexeme.shape = .lineBreak ↔ '\n' ∈ lexeme.text := by
  obtain ⟨front, back, hsplit⟩ := List.append_of_mem h
  have hwritten := Lexeme.written_of_ofText_eq hsplit
  have hspells := hwritten.spells
  have hbare : lexeme.particleChars = [] := by
    cases hp : lexeme.particle with
    | none => rw [Lexeme.particleChars, hp]
    | some particle =>
        have htakes := (hwritten.particle_longest particle hp).1
        cases hs : lexeme.shape <;> simp_all [Lexeme.Shape.isGap, Lexeme.Shape.takesParticle]
  rw [Lexeme.text, hbare, List.append_nil]
  cases hs : lexeme.shape with
  | lineBreak =>
      rw [hs] at hspells
      rw [show lexeme.stem = ['\n'] from hspells]
      simp
  | blank =>
      rw [hs] at hspells
      obtain ⟨c, hstem, hblank⟩ := hspells
      rw [hstem]
      refine iff_of_false (by simp) ?_
      intro hmem
      rw [← List.mem_singleton.mp hmem] at hblank
      cases hblank
  | _ => rw [hs] at hgap; cases hgap

/-- **A text can be laid out, and each of its tokens is then made of a lexeme that is written in the
same place, in the header that the tokens before it leave open.** -/
theorem exists_layout (text : List Char) :
    ∃ first pieces, IsLayout text first pieces
      ∧ ∀ earlier piece later, pieces = earlier ++ piece :: later →
        ∃ lexeme kind, lexeme.Sound
          ∧ lexeme.Written (first ++ earlier.flatMap Piece.chars)
            (piece.gap ++ later.flatMap Piece.chars)
          ∧ (earlier.foldl Header.past .outside).kind? lexeme = some kind
          ∧ piece.token
            = Token.markCall (Token.definedNames (tokenize text)) (Token.ofLexeme kind lexeme) := by
  have hs : ∀ lexeme ∈ Lexeme.ofText text, lexeme.Sound := fun _ h => Lexeme.sound_of_mem_scan h
  have hbreak : ∀ lexeme ∈ Lexeme.ofText text, lexeme.shape.isGap = true →
      (lexeme.shape = .lineBreak ↔ '\n' ∈ lexeme.text) :=
    fun _ h hgap => Lexeme.shape_eq_lineBreak_iff h hgap
  have hnames : Token.definedNames (tokenize text)
      = Token.definedNames (Token.ofLexemes .outside (Lexeme.ofText text)) :=
    Token.definedNames_markCalls _
  rw [hnames]
  obtain ⟨first, pieces, hlaid⟩ : ∃ first pieces,
    Token.layOut (Token.definedNames (Token.ofLexemes .outside (Lexeme.ofText text))) .outside
      (Lexeme.ofText text) = (first, pieces) := ⟨_, _, rfl⟩
  obtain ⟨htokens, htext, hgaps⟩ := Token.of_layOut hs hlaid
  refine ⟨first, pieces, ⟨htokens, ?_, hgaps⟩, ?_⟩
  · rw [← htext]
    exact (Lexeme.flatMap_text_scan (Cursor.start text)).symm
  · intro earlier piece later hpieces
    rw [hpieces] at hlaid
    obtain ⟨front, lexeme, back, kind, hsplit, hfront, hback, hkind, htoken⟩ :=
      Token.exists_lexeme_of_layOut hs hbreak hlaid
    have hwritten := Lexeme.written_of_ofText_eq hsplit
    rw [hfront, hback] at hwritten
    rw [Header.outside_overGap] at hkind
    have hmem : lexeme ∈ Lexeme.ofText text := by
      rw [hsplit]
      exact List.mem_append_right _ (List.mem_cons_self ..)
    exact ⟨lexeme, kind, hs lexeme hmem, hwritten, hkind, htoken⟩

end Nadesiko
