import Mathlib
import Nadesiko.Overflow
import Nadesiko.Proofs.Token.Stream

/-!
# Tokens are well formed and stand in order

Whoever works with tokens relies on their numbers fitting together: a token takes room, its content
ends inside of it, and its particle is what stands behind the content on the last line. Nothing
checks this on the way, so it has to hold of every token that is ever made of a text, whether it is
written on one line or on several.

The numbers also stay small. In a text of fewer than 2³² code units they are words.
-/

namespace Nadesiko

open Text Lexicon

namespace Token

/-- The place at which the content of a token stops and its particle starts. -/
def contentEnd (token : Token) : Position := ⟨token.stop.line, token.contentStop⟩

/-- The numbers and texts of a token fit together. -/
structure WellFormed (token : Token) : Prop where
  /-- A token takes room. -/
  start_lt_stop : token.start < token.stop
  /-- So does its content. -/
  start_lt_contentEnd : token.start < token.contentEnd
  /-- The content ends inside of the token. -/
  contentEnd_le_stop : token.contentEnd ≤ token.stop
  /-- Exactly the tokens with a particle have a place where it starts. -/
  isSome_particleStart : token.particleStart.isSome = true ↔ token.particle ≠ ""
  /-- Without a particle the content ends with the token. -/
  contentStop_of_bare : token.particle = "" → token.contentStop = token.stop.column
  /-- A particle is one of the table. -/
  particle_mem : token.particle ≠ "" → token.particle ∈ particles
  /-- The text is a stem with the particle behind it. -/
  text_eq : token.particle ≠ "" → token.text = token.stem ++ token.particle
  /-- The stem is more than nothing. -/
  stem_ne : token.particle ≠ "" → token.stem ≠ ""
  /-- The particle starts where the content stops. -/
  particleStart_eq : token.particle ≠ "" → token.particleStart = some token.contentStop
  /-- The particle reaches to the end of the token. -/
  contentStop_add : token.particle ≠ "" →
    token.contentStop + units token.particle.toList = token.stop.column

/-- The numbers of a token are words. -/
structure FitsWords (token : Token) : Prop where
  start_line : token.start.line < wordLimit
  start_column : token.start.column < wordLimit
  stop_line : token.stop.line < wordLimit
  stop_column : token.stop.column < wordLimit
  contentStop : token.contentStop < wordLimit
  particleStart : ∀ column ∈ token.particleStart, column < wordLimit

theorem ne_empty_of_mem_particles {particle : String} (h : particle ∈ particles) :
    particle ≠ "" := by
  rintro rfl
  exact absurd h (by decide)

theorem wellFormed_of_bare {lexeme : Lexeme} (hs : lexeme.Sound)
    (hgap : lexeme.shape.isGap = false) (hp : lexeme.particle = none) (kind : Kind) :
    (ofLexeme kind lexeme).WellFormed := by
  have hlt : lexeme.start < lexeme.stop := by
    rw [hs.stop_eq hp]
    exact hs.start_lt hgap
  rw [ofLexeme_of_none kind hp]
  constructor
  · exact hlt
  · exact hlt
  · exact Position.le_refl _
  · simp
  · intro _
    rfl
  all_goals
    intro hne
    exact absurd rfl hne

theorem wellFormed_of_particle {lexeme : Lexeme} (hs : lexeme.Sound)
    (hgap : lexeme.shape.isGap = false) {particle : String} (hp : lexeme.particle = some particle)
    (kind : Kind) : (ofLexeme kind lexeme).WellFormed := by
  obtain ⟨hmem, hstop⟩ := hs.particle_mem particle hp
  have hne := ne_empty_of_mem_particles hmem
  -- the particle stands on the line on which the stem stops, so the content ends with the stem
  have hend : (⟨lexeme.stop.line, lexeme.stemStop.column⟩ : Position) = lexeme.stemStop := by
    rw [hstop]
  have hle : lexeme.stemStop ≤ lexeme.stop := by
    rw [hstop]
    exact Or.inr ⟨rfl, Nat.le_add_right _ _⟩
  have hlt := hs.start_lt hgap
  rw [ofLexeme_of_some kind hp hne]
  have hstem : Token.stem ⟨kind, String.ofList (lexeme.stem ++ particle.toList), lexeme.start,
      lexeme.stop, lexeme.stemStop.column, particle, some lexeme.stemStop.column⟩
        = String.ofList lexeme.stem := stem_of_text_eq String.toList_ofList
  constructor
  · exact Position.lt_of_lt_of_le hlt hle
  · rw [contentEnd, hend]
    exact hlt
  · rw [contentEnd, hend]
    exact hle
  · simp [hne]
  · intro he
    exact absurd he hne
  · intro _
    exact hmem
  · intro _
    rw [hstem, String.ofList_append, String.ofList_toList]
  · intro _
    rw [hstem]
    simp [hs.stem_ne_nil]
  · intro _
    rfl
  · intro _
    rw [hstop]

end Token

theorem wellFormed_of_mem_tokenize {text : List Char} {token : Token}
    (h : token ∈ tokenize text) : token.WellFormed := by
  obtain ⟨lexeme, hmem, hof⟩ := exists_lexeme_of_mem_tokenize h
  obtain ⟨hs, hgap⟩ := Lexeme.sound_of_mem_solid hmem
  rw [hof]
  cases hp : lexeme.particle with
  | none => exact Token.wellFormed_of_bare hs hgap hp _
  | some particle => exact Token.wellFormed_of_particle hs hgap hp _

theorem pairwise_tokenize (text : List Char) :
    (tokenize text).Pairwise (fun earlier later => earlier.stop ≤ later.start) := by
  have hspans := map_tokenize text (fun token => (token.start, token.stop))
    (fun lexeme => (lexeme.start, lexeme.stop))
    (by intro kind lexeme; rw [Token.start_ofLexeme, Token.stop_ofLexeme])
  have hlexemes : (Lexeme.solid text).Pairwise (fun earlier later => earlier.stop ≤ later.start) :=
    (Lexeme.ordered_scan (Cursor.start text)).1.filter _
  rw [← List.pairwise_map (f := fun lexeme : Lexeme => (lexeme.start, lexeme.stop))
    (R := fun earlier later => earlier.2 ≤ later.1), ← hspans, List.pairwise_map] at hlexemes
  exact hlexemes

theorem fitsWords_of_mem_tokenize {text : List Char} (hlen : units text < wordLimit)
    {token : Token} (h : token ∈ tokenize text) : token.FitsWords := by
  have hwf := wellFormed_of_mem_tokenize h
  have hcontent : token.contentStop ≤ token.stop.column := by
    have hle := hwf.contentEnd_le_stop
    rw [Position.le_iff] at hle
    simp only [Token.contentEnd] at hle
    omega
  -- every number of the token is part of a position that the cursor has reached
  have hreach : (Cursor.start text).reach = units text := Nat.zero_add _
  obtain ⟨lexeme, hmem, hof⟩ := exists_lexeme_of_mem_tokenize h
  obtain ⟨hstart, hstop⟩ := Lexeme.le_reach_of_mem_scan (List.mem_of_mem_filter hmem)
  rw [hreach, ← Token.start_ofLexeme token.kind lexeme, ← hof] at hstart
  rw [hreach, ← Token.stop_ofLexeme token.kind lexeme, ← hof] at hstop
  constructor
  · omega
  · omega
  · omega
  · omega
  · omega
  · intro column hcolumn
    have hsome : token.particleStart.isSome = true := by
      rw [Option.mem_def.mp hcolumn]
      rfl
    have heq := hwf.particleStart_eq (hwf.isSome_particleStart.mp hsome)
    rw [Option.mem_def.mp hcolumn] at heq
    rw [Option.some.inj heq]
    omega

/--
**The tokens of a text are well formed and stand in order.**

Every token takes room and ends no later than the next one starts. Its content takes room too, and
its particle, if it has one, is an entry of the table, ends its text, and lies between the end of
the content and the end of the token.
-/
theorem tokenize_wellFormed (text : List Char) (hlen : units text < wordLimit) :
    (∀ token ∈ tokenize text, token.WellFormed ∧ token.FitsWords)
      ∧ (tokenize text).Pairwise (fun earlier later => earlier.stop ≤ later.start) := by
  refine ⟨?_, pairwise_tokenize text⟩
  intro token h
  exact ⟨wellFormed_of_mem_tokenize h, fitsWords_of_mem_tokenize hlen h⟩

/-- A string over two lines, with a wide character and a particle behind it. -/
theorem tokenize_wellFormed_two_lines :
    units "「あ\r\n😀」を表示".toList < wordLimit
      ∧ (tokenize "「あ\r\n😀」を表示".toList).map (fun token => (token.stop, token.particle))
        = [(⟨1, 4⟩, "を"), (⟨1, 6⟩, "")]
      ∧ (∀ token ∈ tokenize "「あ\r\n😀」を表示".toList, token.WellFormed ∧ token.FitsWords)
      ∧ (tokenize "「あ\r\n😀」を表示".toList).Pairwise
        (fun earlier later => earlier.stop ≤ later.start) :=
  ⟨by decide, by decide +kernel, tokenize_wellFormed _ (by decide)⟩

end Nadesiko
