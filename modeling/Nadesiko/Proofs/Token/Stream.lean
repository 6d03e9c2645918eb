import Mathlib
import Nadesiko.Proofs.Lexeme.Scan
import Nadesiko.Token.Stream

/-!
# The tokens of a text are its lexemes without the gaps

Tokens differ from lexemes in two ways only: gaps are left out, and each token has a kind. Headers
and calls decide about kinds and about nothing else, so what is true of the text and the place of
lexemes is true of tokens. In particular the tokens of a text and the gaps between them spell it
out.
-/

namespace Nadesiko

open Text Lexicon

namespace Token

/-! ## One token -/

/-- The kind of a token says nothing about the rest of it. -/
theorem ofLexeme_eq (lexeme : Lexeme) :
    ∃ contentStop particle particleStart, ∀ kind, ofLexeme kind lexeme
      = ⟨kind, String.ofList lexeme.text, lexeme.start, lexeme.stop, contentStop, particle,
          particleStart⟩ := by
  cases hp : lexeme.particle with
  | none =>
      refine ⟨lexeme.stop.column, "", none, ?_⟩
      intro kind
      simp [ofLexeme, hp, plain]
  | some particle =>
      by_cases he : particle = ""
      · refine ⟨lexeme.stop.column, "", none, ?_⟩
        intro kind
        simp [ofLexeme, hp, plain, withParticle, he]
      · refine ⟨lexeme.stemStop.column, particle, some lexeme.stemStop.column, ?_⟩
        intro kind
        simp [ofLexeme, hp, plain, withParticle, he]

section ofLexeme

variable (kind : Kind) (lexeme : Lexeme)

@[simp] theorem kind_ofLexeme : (ofLexeme kind lexeme).kind = kind := by
  obtain ⟨_, _, _, h⟩ := ofLexeme_eq lexeme
  rw [h]

@[simp] theorem text_ofLexeme : (ofLexeme kind lexeme).text = String.ofList lexeme.text := by
  obtain ⟨_, _, _, h⟩ := ofLexeme_eq lexeme
  rw [h]

@[simp] theorem start_ofLexeme : (ofLexeme kind lexeme).start = lexeme.start := by
  obtain ⟨_, _, _, h⟩ := ofLexeme_eq lexeme
  rw [h]

@[simp] theorem stop_ofLexeme : (ofLexeme kind lexeme).stop = lexeme.stop := by
  obtain ⟨_, _, _, h⟩ := ofLexeme_eq lexeme
  rw [h]

theorem with_kind_ofLexeme (other : Kind) :
    { ofLexeme kind lexeme with kind := other } = ofLexeme other lexeme := by
  obtain ⟨_, _, _, h⟩ := ofLexeme_eq lexeme
  rw [h, h]

end ofLexeme

/-- What stands in a token made of a lexeme: its place and, behind the stem, its particle. -/
theorem ofLexeme_of_none {lexeme : Lexeme} (kind : Kind) (h : lexeme.particle = none) :
    ofLexeme kind lexeme
      = ⟨kind, String.ofList lexeme.stem, lexeme.start, lexeme.stop, lexeme.stop.column, "",
          none⟩ := by
  simp [ofLexeme, h, plain, Lexeme.text, Lexeme.particleChars]

theorem ofLexeme_of_some {lexeme : Lexeme} (kind : Kind) {particle : String}
    (h : lexeme.particle = some particle) (hp : particle ≠ "") :
    ofLexeme kind lexeme
      = ⟨kind, String.ofList (lexeme.stem ++ particle.toList), lexeme.start, lexeme.stop,
          lexeme.stemStop.column, particle, some lexeme.stemStop.column⟩ := by
  simp [ofLexeme, h, hp, plain, withParticle, Lexeme.text, Lexeme.particleChars]

/-- A token that is made of a lexeme, whatever its kind. -/
def IsOf (token : Token) (lexeme : Lexeme) : Prop := token = ofLexeme token.kind lexeme

theorem isOf_ofLexeme (kind : Kind) (lexeme : Lexeme) : IsOf (ofLexeme kind lexeme) lexeme := by
  rw [IsOf, kind_ofLexeme]

theorem isOf_markCall (names : List String) {token : Token} {lexeme : Lexeme}
    (h : IsOf token lexeme) : IsOf (markCall names token) lexeme := by
  unfold markCall
  split
  · rw [h, with_kind_ofLexeme]
    exact isOf_ofLexeme _ _
  · exact h

/-! ## All tokens -/

theorem forall₂_isOf_ofLexemes (header : Header) (lexemes : List Lexeme) :
    List.Forall₂ IsOf (ofLexemes header lexemes) (lexemes.filter (fun l => !l.shape.isGap)) := by
  induction lexemes generalizing header with
  | nil => exact List.Forall₂.nil
  | cons lexeme later ih =>
      rw [ofLexemes]
      cases hk : header.kind? lexeme with
      | none =>
          -- exactly the gaps have no kind
          have hgap := Header.kind?_eq_none_iff.mp hk
          rw [List.filter_cons_of_neg (by simp [hgap])]
          exact ih _
      | some kind =>
          have hgap : lexeme.shape.isGap = false := by
            rw [← Bool.not_eq_true, ← @Header.kind?_eq_none_iff header, hk]
            simp
          rw [List.filter_cons_of_pos (by simp [hgap])]
          exact List.Forall₂.cons (isOf_ofLexeme kind lexeme) (ih _)

end Token

/-- The lexemes of a text that are not gaps. -/
def Lexeme.solid (text : List Char) : List Lexeme :=
  (Lexeme.ofText text).filter (fun lexeme => !lexeme.shape.isGap)

/-- **The tokens of a text are its lexemes without the gaps, one by one.** -/
theorem forall₂_isOf_tokenize (text : List Char) :
    List.Forall₂ Token.IsOf (tokenize text) (Lexeme.solid text) := by
  rw [tokenize, Token.markCalls, List.forall₂_map_left_iff]
  refine (Token.forall₂_isOf_ofLexemes .outside (Lexeme.ofText text)).imp ?_
  intro token lexeme h
  exact Token.isOf_markCall _ h

theorem Lexeme.sound_of_mem_solid {text : List Char} {lexeme : Lexeme}
    (h : lexeme ∈ Lexeme.solid text) : lexeme.Sound ∧ lexeme.shape.isGap = false := by
  obtain ⟨hmem, hgap⟩ := List.mem_filter.mp h
  exact ⟨Lexeme.sound_of_mem_scan hmem, by simpa using hgap⟩

theorem exists_lexeme_of_mem_tokenize {text : List Char} {token : Token}
    (h : token ∈ tokenize text) : ∃ lexeme ∈ Lexeme.solid text, token.IsOf lexeme := by
  obtain ⟨i, hi, rfl⟩ := List.mem_iff_getElem.mp h
  have hlen := (forall₂_isOf_tokenize text).length_eq
  exact ⟨(Lexeme.solid text)[i], List.getElem_mem _,
    (forall₂_isOf_tokenize text).get hi (hlen ▸ hi)⟩

/-- What does not depend on the kind is the same for the tokens and for the lexemes. -/
theorem map_tokenize {α : Type} (text : List Char) (f : Token → α) (g : Lexeme → α)
    (hfg : ∀ kind lexeme, f (Token.ofLexeme kind lexeme) = g lexeme) :
    (tokenize text).map f = (Lexeme.solid text).map g := by
  rw [← List.forall₂_eq_eq_eq, List.forall₂_map_left_iff, List.forall₂_map_right_iff]
  refine (forall₂_isOf_tokenize text).imp ?_
  intro token lexeme h
  rw [h, hfg]

/-! ## Nothing is lost -/

/-- Lexemes are the ones that are no gaps, with gaps before, between and after them. -/
theorem Lexeme.exists_gaps (lexemes : List Lexeme) (hs : ∀ lexeme ∈ lexemes, lexeme.Sound) :
    ∃ first gaps,
      (∀ gap ∈ first :: gaps, ∀ c ∈ gap, Lexeme.isGapChar c = true)
        ∧ gaps.length = (lexemes.filter (fun lexeme => !lexeme.shape.isGap)).length
        ∧ lexemes.flatMap Lexeme.text = first
          ++ (List.zipWith (fun lexeme gap => lexeme.text ++ gap)
            (lexemes.filter (fun lexeme => !lexeme.shape.isGap)) gaps).flatten := by
  induction lexemes with
  | nil => exact ⟨[], [], by simp, rfl, rfl⟩
  | cons lexeme later ih =>
      obtain ⟨first, gaps, hchars, hlen, heq⟩ :=
        ih (fun other hmem => hs other (List.mem_cons_of_mem _ hmem))
      cases hgap : lexeme.shape.isGap with
      | true =>
          -- a gap joins the one that follows it
          have hown := (hs lexeme (List.mem_cons_self ..)).gap_chars hgap
          rw [List.filter_cons_of_neg (by simp [hgap])]
          refine ⟨lexeme.text ++ first, gaps, ?_, hlen, ?_⟩
          · intro gap hmem c hc
            rcases List.mem_cons.mp hmem with rfl | hlater
            · rcases List.mem_append.mp hc with h | h
              · exact hown c h
              · exact hchars first (List.mem_cons_self ..) c h
            · exact hchars gap (List.mem_cons_of_mem _ hlater) c hc
          · rw [List.flatMap_cons, heq, List.append_assoc]
      | false =>
          rw [List.filter_cons_of_pos (by simp [hgap])]
          refine ⟨[], first :: gaps, ?_, by simp [hlen], ?_⟩
          · intro gap hmem c hc
            rcases List.mem_cons.mp hmem with rfl | hlater
            · cases hc
            · exact hchars gap hlater c hc
          · rw [List.flatMap_cons, heq, List.zipWith_cons_cons, List.flatten_cons,
              List.append_assoc, List.nil_append]

theorem zipWith_text_tokenize (text : List Char) (gaps : List (List Char)) :
    List.zipWith (fun (token : Token) gap => token.text.toList ++ gap) (tokenize text) gaps
      = List.zipWith (fun (lexeme : Lexeme) gap => lexeme.text ++ gap) (Lexeme.solid text)
        gaps := by
  have htexts := map_tokenize text (fun token => token.text.toList) Lexeme.text
    (by intro kind lexeme; rw [Token.text_ofLexeme, String.toList_ofList])
  rw [← List.zipWith_map_left, htexts, List.zipWith_map_left]

/--
**A text is its tokens with gaps before, between and after them.**

The gaps hold blanks and line feeds only, and every token has a text of its own, so nothing is lost
and nothing is there twice.
-/
theorem tokenize_spells_text (text : List Char) :
    ∃ (first : List Char) (gaps : List (List Char)),
      (∀ gap ∈ first :: gaps, ∀ c ∈ gap, c ∈ [' ', '\t', '\r', '\u3000', '\n'])
        ∧ gaps.length = (tokenize text).length
        ∧ text = first
          ++ (List.zipWith (fun (token : Token) gap => token.text.toList ++ gap)
            (tokenize text) gaps).flatten
        ∧ ∀ token ∈ tokenize text, token.text ≠ "" := by
  obtain ⟨first, gaps, hchars, hlen, heq⟩ := Lexeme.exists_gaps (Lexeme.ofText text)
    (fun lexeme hmem => Lexeme.sound_of_mem_scan hmem)
  refine ⟨first, gaps, ?_, ?_, ?_, ?_⟩
  · intro gap hgap c hc
    have := hchars gap hgap c hc
    simpa [Lexeme.isGapChar, isBlank, or_comm, or_assoc, or_left_comm] using this
  · rw [hlen, (forall₂_isOf_tokenize text).length_eq]
    rfl
  · rw [zipWith_text_tokenize]
    exact (Lexeme.flatMap_text_scan (Cursor.start text)).symm.trans heq
  · intro token hmem
    obtain ⟨lexeme, hl, hof⟩ := exists_lexeme_of_mem_tokenize hmem
    have hne := (Lexeme.sound_of_mem_solid hl).1.stem_ne_nil
    rw [hof, Token.text_ofLexeme]
    simp [Lexeme.text, hne]

end Nadesiko
