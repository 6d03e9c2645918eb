import Mathlib
import Nadesiko.Proofs.Token.Layout
import Nadesiko.Proofs.Highlight.Shown

/-!
# The lexical grammar

The kind of a token is a promise about its text. Each kind belongs to a shape, words of all kinds to
the same one, and the shape says how the stem is written where the token stands. Calls are found out
only after all tokens have been read, and a call keeps the shape of a word.
-/

namespace Nadesiko

open Text Lexicon

/-- The shape of the tokens of a kind. Big integers and kinds known only by name are never read. -/
def Kind.shape? : Kind → Option Lexeme.Shape
  | .word | .functionName | .userFunction | .argument | .builtin _ | .keyword _ => some .word
  | .number => some .number
  | .string => some .string
  | .template => some .template
  | .lineComment => some .lineComment
  | .rangeComment => some .rangeComment
  | .docComment => some .docComment
  | .pragma => some .pragma
  | .definition => some .definition
  | .comma => some .comma
  | .sentenceEnd => some .sentenceEnd
  | .unknown => some .unknown
  | .operator op => some (.operator op)
  | .bigInteger | .unlisted _ => none

/-- How a token is written in a text, behind `before` and before `after`. -/
structure Token.Written (token : Token) (before after : List Char) : Prop where
  /-- The text is the stem with the particle behind it. -/
  text_eq : token.text = token.stem ++ token.particle
  /-- The stem is written as the shape of its kind demands. -/
  spells : ∃ shape, token.kind.shape? = some shape
    ∧ shape.Spells before token.stem.toList (token.particle.toList ++ after)
  /-- An operator's kind goes by its text. -/
  name_eq : ∀ op, token.kind = .operator op → token.kind.name = token.text
  /-- Words of all kinds are told by their first character. -/
  word_iff : ∀ c ∈ token.text.toList.head?,
    (token.kind.shape? = some .word ↔ startsWord c = true)
  /-- A mark of a pragma starts one exactly if only blanks precede it on its line. -/
  pragma_iff : ∀ c ∈ token.text.toList.head?, c = '!' ∨ c = '！' →
    (token.kind = .pragma ↔ EndsInBlankLine before)
  /-- Only words, strings and numbers have a particle, and it is the longest one that fits. -/
  particle_longest : token.particle ≠ "" →
    (∃ shape, token.kind.shape? = some shape ∧ shape.takesParticle = true)
      ∧ Lexeme.IsLongest particles token.particle (token.particle.toList ++ after)
  /-- Behind a string or a number, a particle is taken whenever there is one. -/
  particle_none : token.kind = .string ∨ token.kind = .template ∨ token.kind = .number →
    token.particle = "" → ∀ particle ∈ particles, ¬ particle.toList <+: after

/-! ## Kinds and shapes -/

theorem Header.shape?_wordKind (stem : List Char) :
    (wordKind stem).shape? = some .word := by
  unfold wordKind
  split
  · rfl
  · split <;> rfl

theorem Header.shape?_of_kind? {header : Header} {lexeme : Lexeme} {kind : Kind}
    (h : header.kind? lexeme = some kind) : kind.shape? = some lexeme.shape := by
  unfold kind? at h
  cases hs : lexeme.shape with
  | word =>
      rw [hs] at h
      rw [← Option.some.inj h]
      unfold wordKindIn
      split
      · rfl
      · rfl
      · exact shape?_wordKind _
      · exact shape?_wordKind _
  | _ =>
      rw [hs] at h
      cases h <;> rfl

theorem Token.shape?_markCall (names : List String) (token : Token) :
    (markCall names token).kind.shape? = token.kind.shape? := by
  by_cases hword : token.kind = .word
  · rw [markCall_of_word names hword, hword]
    dsimp only [withKind]
    split <;> rfl
  · rw [markCall_of_ne_word names hword]

/-- Only words are of several kinds. -/
theorem Kind.shape?_eq_pragma_iff {kind : Kind} : kind.shape? = some .pragma ↔ kind = .pragma := by
  cases kind <;> simp [Kind.shape?]

/-! ## Tokens of lexemes -/

/-- The particle of a token is that of its lexeme. -/
theorem Token.IsOf.particle_cases {token : Token} {lexeme : Lexeme} (h : token.IsOf lexeme)
    (hs : lexeme.Sound) :
    (lexeme.particle = none ∧ token.particle = "")
      ∨ (lexeme.particle = some token.particle ∧ token.particle ≠ "") := by
  have hchars := h.particle_eq hs
  rw [Lexeme.particleChars] at hchars
  cases hp : lexeme.particle with
  | none =>
      rw [hp] at hchars
      exact Or.inl ⟨rfl, String.toList_inj.mp hchars⟩
  | some particle =>
      rw [hp] at hchars
      rw [String.toList_inj.mp hchars]
      exact Or.inr ⟨rfl, ne_empty_of_mem_particles (hs.particle_mem particle hp).1⟩

theorem Token.written_of_isOf {token : Token} {lexeme : Lexeme} {before after : List Char}
    (hof : token.IsOf lexeme) (hs : lexeme.Sound) (hshape : token.kind.shape? = some lexeme.shape)
    (hw : lexeme.Written before after) : token.Written before after := by
  have hstem := hof.stem_eq hs
  have hparticle := hof.particle_eq hs
  have htext : token.text = token.stem ++ token.particle := by
    rw [← String.toList_inj, String.toList_append, hof.text_eq, hstem, hparticle, Lexeme.text]
  have hfirst : ∀ c ∈ token.text.toList.head?, c ∈ lexeme.stem.head? := by
    intro c hc
    rw [hof.text_eq, Lexeme.text, List.head?_append_of_ne_nil _ hs.stem_ne_nil] at hc
    exact hc
  constructor
  case text_eq => exact htext
  case spells =>
    refine ⟨lexeme.shape, hshape, ?_⟩
    rw [hstem, hparticle]
    exact hw.spells
  case name_eq =>
    intro op hop
    have hoperator : lexeme.shape = .operator op := by
      rw [hop] at hshape
      exact (Option.some.inj hshape).symm
    have hspells := hw.spells
    rw [hoperator] at hspells
    rcases hof.particle_cases hs with ⟨_, hnone⟩ | ⟨hsome, _⟩
    · rw [hop, htext, hnone, String.append_empty, ← String.toList_inj, hstem]
      exact hspells.1.symm
    · -- operators take no particle
      have htakes := (hw.particle_longest _ hsome).1
      rw [hoperator] at htakes
      cases htakes
  case word_iff =>
    intro c hc
    rw [hshape, Option.some.injEq]
    exact hw.word_iff c (hfirst c hc)
  case pragma_iff =>
    intro c hc hmark
    have hopens : Lexeme.opensPragma c = true := by
      rcases hmark with rfl | rfl <;> rfl
    rw [← hw.pragma_iff c (hfirst c hc) hopens, ← Kind.shape?_eq_pragma_iff, hshape,
      Option.some.injEq]
  case particle_longest =>
    intro hne
    rcases hof.particle_cases hs with ⟨_, hnone⟩ | ⟨hsome, _⟩
    · exact absurd hnone hne
    · obtain ⟨htakes, hlongest⟩ := hw.particle_longest _ hsome
      rw [hparticle]
      exact ⟨⟨lexeme.shape, hshape, htakes⟩, hlongest⟩
  case particle_none =>
    intro hkind hnone
    have hlexeme : lexeme.particle = none := by
      rcases hof.particle_cases hs with ⟨h, _⟩ | ⟨_, hne⟩
      · exact h
      · exact absurd hnone hne
    refine hw.particle_none ?_ ?_ hlexeme
    · rcases hkind with h | h | h <;> (rw [h] at hshape; rw [← Option.some.inj hshape]; rfl)
    · rcases hkind with h | h | h <;> (rw [h] at hshape; rw [← Option.some.inj hshape]; simp)

/--
**Every token of a text is written as its kind demands.**

The text is laid out as its tokens and the gaps between them. What is demanded of a token then
speaks of all that stands before it and of all that comes after: that nothing which could belong to
it follows, that its closing mark is the first one, that only blanks precede it on its line, that no
longer operator and no longer particle fits.
-/
theorem tokenize_written (text : List Char) :
    ∃ first pieces, IsLayout text first pieces
      ∧ ∀ earlier piece later, pieces = earlier ++ piece :: later →
        piece.token.Written (first ++ earlier.flatMap Piece.chars)
          (piece.gap ++ later.flatMap Piece.chars) := by
  obtain ⟨first, pieces, hlayout, hpieces⟩ := exists_layout text
  refine ⟨first, pieces, hlayout, ?_⟩
  intro earlier piece later hsplit
  obtain ⟨lexeme, kind, hs, hwritten, hkind, htoken⟩ := hpieces earlier piece later hsplit
  have hof : piece.token.IsOf lexeme := by
    rw [htoken]
    exact Token.isOf_markCall _ (Token.isOf_ofLexeme kind lexeme)
  have hshape : piece.token.kind.shape? = some lexeme.shape := by
    rw [htoken, Token.shape?_markCall, Token.kind_ofLexeme, Header.shape?_of_kind? hkind]
  exact Token.written_of_isOf hof hs hshape hwritten

/-- The second exclamation mark is no pragma, the comment is no documentation, and the string has no
closing mark. -/
example : (tokenize "!あ\nA!=１.２を/**/「い".toList).map
    (fun token => (token.kind.name, token.stem, token.particle))
      = [("pragma", "!あ", ""), ("word", "A", ""), ("!=", "!=", ""), ("number", "１.２", "を"),
        ("range_comment", "/**/", ""), ("string", "「い", "")] := by decide +kernel

end Nadesiko
