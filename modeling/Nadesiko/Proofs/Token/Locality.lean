import Mathlib
import Nadesiko.Proofs.Lexeme.Locality
import Nadesiko.Proofs.Token.Transport

/-!
# Texts joined by a line feed

A header ends with its line, so the tokens of two texts with a line feed between them are those of
the first and, further down, those of the second. Only calls look at the whole text: a word of the
one text may name a function of the other. Which words are calls has to be decided anew, by the
names that either text defines.
-/

namespace Nadesiko

open Text

/-- The marks that open and close tokens of a kind. -/
def Kind.marks : Kind → List (List Char × List Char)
  | .string => Lexeme.Shape.marks .string
  | .template => Lexeme.Shape.marks .template
  | .rangeComment => Lexeme.Shape.marks .rangeComment
  | .docComment => Lexeme.Shape.marks .docComment
  | _ => []

namespace Token

/-- A token that runs to the end of a text because its closing mark is missing. -/
def RunsOut (text : List Char) (token : Token) : Prop :=
  token.text.toList <:+ text
    ∧ ∃ marks ∈ token.kind.marks, marks.1 <+: token.text.toList
      ∧ ¬ marks.2 <:+: token.text.toList.drop marks.1.length

instance (text : List Char) (token : Token) : Decidable (token.RunsOut text) :=
  inferInstanceAs (Decidable (_ ∧ _))

/-- The token as many lines further down. -/
def down (n : Nat) (token : Token) : Token :=
  { token with start := token.start.down n, stop := token.stop.down n }

/-- Decides anew whether a word is a call, by the names of the functions there are. -/
def remarkCall (names : List String) (token : Token) : Token :=
  if token.kind = .word ∨ token.kind = .userFunction then
    token.withKind (if token.stem ∈ names then .userFunction else .word)
  else token

/-! ## Headers -/

theorem ofLexemes_append (header : Header) (first second : List Lexeme) :
    ofLexemes header (first ++ second)
      = ofLexemes header first ++ ofLexemes (first.foldl Header.next header) second := by
  induction first generalizing header with
  | nil => rfl
  | cons lexeme later ih =>
      rw [List.cons_append, ofLexemes, ofLexemes, ih, List.foldl_cons]
      cases header.kind? lexeme with
      | none => rfl
      | some kind => rfl

/-- Behind a line feed no header is open. -/
theorem ofLexemes_cons_lineBreak {lineBreak : Lexeme} (h : lineBreak.shape = .lineBreak)
    (header : Header) (later : List Lexeme) :
    ofLexemes header (lineBreak :: later) = ofLexemes .outside later := by
  have hkind : header.kind? lineBreak = none := by rw [Header.kind?, h]
  have hnext : header.next lineBreak = .outside := by rw [Header.next, h]
  rw [ofLexemes, hkind, hnext]

theorem ofLexeme_down (kind : Kind) (n : Nat) (lexeme : Lexeme) :
    ofLexeme kind (lexeme.down n) = (ofLexeme kind lexeme).down n := by
  have htext : (lexeme.down n).text = lexeme.text := rfl
  unfold ofLexeme
  rw [htext]
  dsimp only [Lexeme.down]
  cases lexeme.particle with
  | none => rfl
  | some particle =>
      dsimp only [withParticle]
      split <;> rfl

theorem ofLexemes_down (n : Nat) (lexemes : List Lexeme) :
    ofLexemes .outside (lexemes.map (Lexeme.down n))
      = (ofLexemes .outside lexemes).map (down n) := by
  apply ofLexemes_map
  · intro lexeme
    rfl
  · intro lexeme _ _
    rfl
  · intro lexeme _ kind
    exact ofLexeme_down kind n lexeme

/-! ## Closing marks -/

theorem exists_kind_of_mem_marks {lexeme : Lexeme} {marks : List Char × List Char}
    (h : marks ∈ lexeme.shape.marks) (header : Header) :
    ∃ kind, header.kind? lexeme = some kind ∧ marks ∈ kind.marks := by
  unfold Header.kind?
  cases hs : lexeme.shape with
  | string => rw [hs] at h; exact ⟨.string, rfl, h⟩
  | template => rw [hs] at h; exact ⟨.template, rfl, h⟩
  | rangeComment => rw [hs] at h; exact ⟨.rangeComment, rfl, h⟩
  | docComment => rw [hs] at h; exact ⟨.docComment, rfl, h⟩
  | _ => rw [hs] at h; cases h

/-- When the last lexeme lacks its closing mark, the last token runs out. -/
theorem exists_runsOut {text : List Char} {lexeme : Lexeme}
    (hmem : lexeme ∈ (Lexeme.ofText text).getLast?) (hopen : lexeme.Unclosed) :
    ∃ token ∈ (tokenize text).getLast?, token.RunsOut text := by
  obtain ⟨front, hfront⟩ := List.getLast?_eq_some_iff.mp hmem
  obtain ⟨marks, hmarks, hopens, hcloses⟩ := hopen
  obtain ⟨kind, hkind, hmarked⟩ :=
    exists_kind_of_mem_marks hmarks (front.foldl Header.next .outside)
  have hword : kind ≠ .word := by
    rintro rfl
    cases hmarked
  have hsuffix : lexeme.text <:+ text := by
    refine ⟨front.flatMap Lexeme.text, ?_⟩
    have hall := Lexeme.flatMap_text_scan (Cursor.start text)
    rw [show Lexeme.scan (Cursor.start text) = front ++ [lexeme] from hfront] at hall
    simpa using hall
  refine ⟨ofLexeme kind lexeme, ?_, ?_, marks, ?_, ?_⟩
  · rw [tokenize, markCalls, hfront, ofLexemes_append, ofLexemes, hkind]
    dsimp only [ofLexemes]
    rw [List.map_append, List.map_singleton, markCall_of_ne_word _ (by rwa [kind_ofLexeme]),
      List.getLast?_concat]
    rfl
  · rwa [text_ofLexeme, String.toList_ofList]
  · rwa [kind_ofLexeme]
  · rw [text_ofLexeme, String.toList_ofList]
    exact ⟨hopens, hcloses⟩

/-! ## Calls -/

theorem definedNames_append (first second : List Token) :
    definedNames (first ++ second) = definedNames first ++ definedNames second := by
  unfold definedNames
  rw [List.filter_append, List.map_append]

theorem definedNames_down (n : Nat) (tokens : List Token) :
    definedNames (tokens.map (down n)) = definedNames tokens :=
  definedNames_map (fun _ => Iff.rfl) (fun _ _ _ => rfl)

theorem markCalls_down (n : Nat) (tokens : List Token) :
    markCalls (tokens.map (down n)) = (markCalls tokens).map (down n) :=
  markCalls_map (fun _ _ => rfl) (fun _ _ _ => rfl)

/-- Marking calls leaves the names of functions. -/
theorem definedNames_markCalls (tokens : List Token) :
    definedNames (markCalls tokens) = definedNames tokens := by
  refine definedNames_map ?_ ?_
  · intro token
    by_cases hword : token.kind = .word
    · rw [markCall_of_word _ hword, hword]
      dsimp only [withKind]
      split <;> decide
    · rw [markCall_of_ne_word _ hword]
  · intro token _ hname
    rw [markCall_of_ne_word _ (by rw [hname]; decide)]

/-- What was decided with other names does not matter when it is decided anew. -/
theorem remarkCall_markCall {token : Token} (h : token.kind ≠ .userFunction)
    (names others : List String) :
    remarkCall names (markCall others token) = markCall names token := by
  by_cases hword : token.kind = .word
  · rw [markCall_of_word others hword, markCall_of_word names hword]
    -- either way a word stays one of the two kinds, and keeps its stem
    split
    · exact if_pos (Or.inr rfl)
    · exact if_pos (Or.inl rfl)
  · rw [markCall_of_ne_word others hword, markCall_of_ne_word names hword]
    exact if_neg (not_or.mpr ⟨hword, h⟩)

theorem map_remarkCall_markCalls {header : Header} {lexemes : List Lexeme} (names : List String) :
    (markCalls (ofLexemes header lexemes)).map (remarkCall names)
      = (ofLexemes header lexemes).map (markCall names) := by
  unfold markCalls
  rw [List.map_map]
  refine List.map_congr_left ?_
  intro token hmem
  exact remarkCall_markCall (kind_ne_userFunction_of_mem_ofLexemes hmem) names _

end Token

/--
**Reading is local to lines.**

When a text goes on behind a line feed, its tokens and those of what follows stay what they are, the
latter as many lines further down as the former takes. Only calls are decided anew: a word is a call
if either text defines a function of that name.
-/
theorem tokenize_append_newline (text later : List Char) (hlast : text.getLast? ≠ some '\r')
    (hclosed : ∀ token ∈ (tokenize text).getLast?, ¬ token.RunsOut text) :
    tokenize (text ++ '\n' :: later)
      = (tokenize text ++ (tokenize later).map (Token.down (text.count '\n' + 1))).map
        (Token.remarkCall
          (Token.definedNames (tokenize text) ++ Token.definedNames (tokenize later))) := by
  have hlexemes : ∀ lexeme ∈ (Lexeme.ofText text).getLast?, ¬ lexeme.Unclosed := by
    intro lexeme hmem hopen
    obtain ⟨token, htoken, hruns⟩ := Token.exists_runsOut hmem hopen
    exact hclosed token htoken hruns
  obtain ⟨lineBreak, hshape, hjoined⟩ := Lexeme.ofText_append_newline hlast hlexemes later
  -- the second text's tokens are made of lexemes further down, which define the same names
  have hdown : (tokenize later).map (Token.down (text.count '\n' + 1))
      = Token.markCalls (Token.ofLexemes .outside
          ((Lexeme.ofText later).map (Lexeme.down (text.count '\n' + 1)))) := by
    rw [tokenize, Token.ofLexemes_down, Token.markCalls_down]
  have hnames : Token.definedNames (tokenize later)
      = Token.definedNames (Token.ofLexemes .outside
          ((Lexeme.ofText later).map (Lexeme.down (text.count '\n' + 1)))) := by
    rw [tokenize, Token.definedNames_markCalls, Token.ofLexemes_down, Token.definedNames_down]
  rw [hdown, hnames, tokenize, tokenize, hjoined, Token.ofLexemes_append,
    Token.ofLexemes_cons_lineBreak hshape, Token.definedNames_markCalls, List.map_append,
    Token.map_remarkCall_markCalls, Token.map_remarkCall_markCalls, ← Token.definedNames_append,
    ← List.map_append]
  rfl

/-- A word of the second text names a function of the first, which ends with a closed string. -/
theorem tokenize_append_newline_greeting :
    "●挨拶\n「あ」".toList.getLast? ≠ some '\r'
      ∧ (∀ token ∈ (tokenize "●挨拶\n「あ」".toList).getLast?, ¬ token.RunsOut "●挨拶\n「あ」".toList)
      ∧ (tokenize "挨拶".toList).map (fun token => (token.kind, token.start))
        = [(.word, ⟨0, 0⟩)]
      ∧ (tokenize ("●挨拶\n「あ」".toList ++ '\n' :: "挨拶".toList)).map
          (fun token => (token.kind, token.start))
        = [(.definition, ⟨0, 0⟩), (.functionName, ⟨0, 1⟩), (.string, ⟨1, 0⟩),
          (.userFunction, ⟨2, 0⟩)]
      ∧ tokenize ("●挨拶\n「あ」".toList ++ '\n' :: "挨拶".toList)
        = (tokenize "●挨拶\n「あ」".toList
            ++ (tokenize "挨拶".toList).map (Token.down ("●挨拶\n「あ」".toList.count '\n' + 1))).map
          (Token.remarkCall (Token.definedNames (tokenize "●挨拶\n「あ」".toList)
            ++ Token.definedNames (tokenize "挨拶".toList))) :=
  have hlast : "●挨拶\n「あ」".toList.getLast? ≠ some '\r' := by decide
  have hclosed : ∀ token ∈ (tokenize "●挨拶\n「あ」".toList).getLast?,
      ¬ token.RunsOut "●挨拶\n「あ」".toList := by decide +kernel
  ⟨hlast, hclosed, by decide +kernel, by decide +kernel, tokenize_append_newline _ _ hlast hclosed⟩

end Nadesiko
