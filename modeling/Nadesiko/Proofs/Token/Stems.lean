import Mathlib
import Nadesiko.Proofs.Lexeme.Alone
import Nadesiko.Proofs.Token.Grammar

/-!
# A stem is a token by itself

Without its particle, and without the text around it, a token is still one token. Only what it owes
to the rest of the text is lost: a word that names a function, a parameter or a call is nothing but
a word of its spelling when it stands alone. All other kinds are told by the stem.
-/

namespace Nadesiko

open Text Lexicon

/-- The kind of a stem that stands alone, if it belongs to a token of the given kind. -/
def Kind.alone (stem : List Char) : Kind → Kind
  | .functionName | .argument | .userFunction => Header.wordKind stem
  | kind => kind

namespace Header

theorem alone_wordKind (stem : List Char) : (wordKind stem).alone stem = wordKind stem := by
  cases hkind : wordKind stem with
  | functionName => exact hkind
  | argument => exact hkind
  | userFunction => exact hkind
  | _ => rfl

/-- Outside of all headers a lexeme has the kind of its stem. -/
theorem kind?_outside {header : Header} {lexeme : Lexeme} {kind : Kind}
    (h : header.kind? lexeme = some kind) :
    outside.kind? lexeme = some (kind.alone lexeme.stem) := by
  unfold kind? at h ⊢
  cases hs : lexeme.shape with
  | word =>
      rw [hs] at h
      rw [← Option.some.inj h]
      cases header with
      | outside => exact congrArg some (alone_wordKind lexeme.stem).symm
      | heading named =>
          cases named with
          | false => rfl
          | true => exact congrArg some (alone_wordKind lexeme.stem).symm
      | parameters named => rfl
  | _ =>
      rw [hs] at h
      cases h <;> rfl

/-- A word that is plain in its header is plain outside of all. -/
theorem wordKind_eq_word {header : Header} {lexeme : Lexeme}
    (h : header.kind? lexeme = some .word) : wordKind lexeme.stem = .word := by
  have hshape := shape_of_kind? h (Or.inl rfl)
  have houtside := kind?_outside h
  rw [kind?, hshape] at houtside
  exact Option.some.inj houtside

theorem alone_ne_functionName (stem : List Char) (kind : Kind) :
    kind.alone stem ≠ .functionName := by
  have hword : wordKind stem ≠ .functionName := by
    unfold wordKind
    split
    · simp
    · split <;> simp
  cases kind with
  | functionName => exact hword
  | argument => exact hword
  | userFunction => exact hword
  | _ => simp [Kind.alone]

end Header

namespace Token

theorem alone_markCall (names : List String) {token : Token} {stem : List Char}
    (h : token.kind = .word → Header.wordKind stem = .word) :
    (markCall names token).kind.alone stem = token.kind.alone stem := by
  by_cases hword : token.kind = .word
  · rw [markCall_of_word names hword, hword]
    dsimp only [withKind]
    split
    · exact h hword
    · rfl
  · rw [markCall_of_ne_word names hword]

/-- A token is made of a lexeme that has the kind of the stem alone outside of all headers. -/
theorem exists_alone_of_mem_tokenize {text : List Char} {token : Token}
    (h : token ∈ tokenize text) :
    ∃ lexeme ∈ Lexeme.ofText text, token.IsOf lexeme ∧ token.kind.shape? = some lexeme.shape
      ∧ Header.outside.kind? lexeme = some (token.kind.alone lexeme.stem) := by
  obtain ⟨unmarked, hmem, rfl⟩ := List.mem_map.mp h
  obtain ⟨lexeme, hlexeme, hof, header, hkind⟩ := exists_of_mem_ofLexemes hmem
  have hword : unmarked.kind = .word → Header.wordKind lexeme.stem = .word := by
    intro hword
    rw [hword] at hkind
    exact Header.wordKind_eq_word hkind
  refine ⟨lexeme, hlexeme, isOf_markCall _ hof, ?_, ?_⟩
  · rw [shape?_markCall, Header.shape?_of_kind? hkind]
  · rw [alone_markCall _ hword, Header.kind?_outside hkind]

/-- A text of one lexeme that defines nothing is one token. -/
theorem tokenize_of_ofText_eq {text : List Char} {lexeme : Lexeme} {kind : Kind}
    (h : Lexeme.ofText text = [lexeme]) (hkind : Header.outside.kind? lexeme = some kind)
    (hname : kind ≠ .functionName) : tokenize text = [ofLexeme kind lexeme] := by
  have hone : ofLexemes .outside (Lexeme.ofText text) = [ofLexeme kind lexeme] := by
    rw [h, ofLexemes, hkind]
    rfl
  have hnames : definedNames [ofLexeme kind lexeme] = [] := by
    simp [definedNames, hname]
  rw [tokenize, hone, markCalls, hnames, List.map_singleton]
  simp [markCall]

end Token

/--
**The stem of a token is one token when it stands alone.**

It is the whole text, it has no particle, and its kind is the same, except that a word which names a
function, a parameter or a call is now what its spelling says. Left out is what starts with the mark
of a pragma without being one: at the start of a text it would be one.
-/
theorem tokenize_stem {text : List Char} {token : Token} (h : token ∈ tokenize text)
    (hpragma : token.kind = .pragma ∨ ∀ c ∈ token.text.toList.head?, c ≠ '!' ∧ c ≠ '！') :
    ∃ stop, tokenize token.stem.toList
      = [Token.plain (token.kind.alone token.stem.toList) token.stem .zero stop] := by
  obtain ⟨lexeme, hmem, hof, hshape, hkind⟩ := Token.exists_alone_of_mem_tokenize h
  have hs := Lexeme.sound_of_mem_scan hmem
  have hstem := hof.stem_eq hs
  have hmarks : lexeme.shape = .pragma
      ∨ ∀ c ∈ lexeme.stem.head?, Lexeme.opensPragma c = false := by
    rcases hpragma with hpragma | hfirst
    · rw [hpragma] at hshape
      exact Or.inl (Option.some.inj hshape).symm
    · refine Or.inr ?_
      intro c hc
      rw [hof.text_eq, Lexeme.text, List.head?_append_of_ne_nil _ hs.stem_ne_nil] at hfirst
      simp [Lexeme.opensPragma, hfirst c hc]
  obtain ⟨stop, halone⟩ := Lexeme.ofText_stem hmem hmarks
  -- the lexeme that stands alone has the kind that the first one has outside of headers
  have hagain : Header.outside.kind? ⟨lexeme.shape, lexeme.stem, none, .zero, stop, stop⟩
      = some (token.kind.alone lexeme.stem) :=
    (Header.kind?_congr rfl (fun _ => rfl) .outside).trans hkind
  refine ⟨stop, ?_⟩
  rw [hstem, Token.tokenize_of_ofText_eq halone hagain (Header.alone_ne_functionName _ _),
    Token.ofLexeme_of_none _ rfl, ← hstem, String.ofList_toList]
  rfl

/-- In the text around it the word is a call with a particle, and alone it is just a word. -/
theorem tokenize_stem_call :
    ⟨.userFunction, "挨拶を", ⟨1, 0⟩, ⟨1, 3⟩, 2, "を", some 2⟩ ∈ tokenize "●挨拶\n挨拶を".toList
      ∧ ∃ stop, tokenize "挨拶".toList = [Token.plain .word "挨拶" .zero stop] := by
  have hmem : (⟨.userFunction, "挨拶を", ⟨1, 0⟩, ⟨1, 3⟩, 2, "を", some 2⟩ : Token)
      ∈ tokenize "●挨拶\n挨拶を".toList := by decide +kernel
  have hfirst : ∀ c ∈ "挨拶を".toList.head?, c ≠ '!' ∧ c ≠ '！' := by
    have hhead : "挨拶を".toList.head? = some '挨' := rfl
    intro c hc
    rw [hhead] at hc
    rw [← Option.some.inj hc]
    simp
  have hstem : Token.stem ⟨.userFunction, "挨拶を", ⟨1, 0⟩, ⟨1, 3⟩, 2, "を", some 2⟩ = "挨拶" := by
    decide +kernel
  have hkind : Kind.userFunction.alone "挨拶".toList = .word := by decide +kernel
  obtain ⟨stop, halone⟩ := tokenize_stem hmem (Or.inr hfirst)
  rw [hstem] at halone
  dsimp only at halone
  rw [hkind] at halone
  exact ⟨hmem, stop, halone⟩

end Nadesiko
