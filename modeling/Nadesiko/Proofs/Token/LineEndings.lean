import Mathlib
import Nadesiko.Highlight.Buffer
import Nadesiko.Proofs.Lexeme.Sight
import Nadesiko.Proofs.Text.Returns
import Nadesiko.Proofs.Token.Transport
import Nadesiko.Token.Lookup

/-!
# Both kinds of line ends give the same tokens

A text is read side by side with itself without carriage returns, all of which stand before line
feeds. Outside of tokens such a carriage return is a blank, and the other side waits. Inside of a
comment, a pragma or a string it is passed over with the rest, and the other side passes one
character less. Words, numbers and signs never reach it, because it is out of sight.

So the lexemes of the two texts are the same but for blanks and for carriage returns in stems. Kinds
look at stems only where these are words, and whatever comes after the tokens looks at positions and
kinds alone.
-/

namespace Nadesiko

open Text Lexicon

namespace Lexeme

/-! ## Reading side by side -/

theorem sight_withoutReturns {rest : List Char} (h : Paired rest) :
    sight (withoutReturns rest) = sight rest := by
  induction rest with
  | nil => rfl
  | cons c rest ih =>
      obtain ⟨hnext, hrest⟩ := h
      by_cases hc : c = '\r'
      · -- the line feed behind it ends the sight as well
        obtain ⟨later, hlater⟩ := List.head?_eq_some_iff.mp (hnext hc)
        rw [hc, hlater, withoutReturns_cons_return, withoutReturns_cons (by decide),
          sight_cons_of_breaks (by decide), sight_cons_of_breaks (by decide)]
      · rw [withoutReturns_cons hc]
        cases hb : Cursor.breaksLine c with
        | true => rw [sight_cons_of_breaks hb, sight_cons_of_breaks hb]
        | false => rw [sight_cons hb, sight_cons hb, ih hrest]

theorem lengthToLineEnd_withoutReturns (rest : List Char) :
    lengthToLineEnd (withoutReturns rest)
      = (withoutReturns (rest.take (lengthToLineEnd rest))).length := by
  induction rest with
  | nil => rfl
  | cons c rest ih =>
      by_cases hbreak : c = '\n'
      · rw [hbreak, withoutReturns_cons (by decide), lengthToLineEnd_cons_newline,
          lengthToLineEnd_cons_newline]
        rfl
      · rw [lengthToLineEnd_cons hbreak, List.take_succ_cons]
        by_cases hr : c = '\r'
        · rw [hr, withoutReturns_cons_return, withoutReturns_cons_return, ih]
        · rw [withoutReturns_cons hr, withoutReturns_cons hr, lengthToLineEnd_cons hbreak,
            List.length_cons, ih]

theorem lengthThrough_withoutReturns {close : List Char} (hne : close ≠ [])
    (hclose : ∀ c ∈ close, Cursor.breaksLine c = false) {rest : List Char} (h : Paired rest) :
    lengthThrough close (withoutReturns rest)
      = (withoutReturns (rest.take (lengthThrough close rest))).length := by
  induction rest with
  | nil => rfl
  | cons c rest ih =>
      have hprefix : close.isPrefixOf (withoutReturns (c :: rest))
          = close.isPrefixOf (c :: rest) := by
        rw [← isPrefixOf_sight hclose, sight_withoutReturns h, isPrefixOf_sight hclose]
      by_cases hc : c = '\r'
      · have hno : close.isPrefixOf (c :: rest) = false := by
          rw [← isPrefixOf_sight hclose, hc, sight_cons_of_breaks (by decide)]
          cases close with
          | nil => exact absurd rfl hne
          | cons d close => rfl
        rw [lengthThrough, hno, if_neg (by decide), List.take_succ_cons, hc,
          withoutReturns_cons_return, withoutReturns_cons_return, ih h.2]
      · rw [withoutReturns_cons hc] at hprefix ⊢
        rw [lengthThrough, lengthThrough, hprefix]
        by_cases hp : close.isPrefixOf (c :: rest) = true
        · obtain ⟨later, hlater⟩ := List.isPrefixOf_iff_prefix.mp hp
          rw [if_pos hp, if_pos hp, ← hlater, List.take_left, withoutReturns_eq_self (return_notMem hclose)]
        · rw [if_neg hp, if_neg hp, List.take_succ_cons, withoutReturns_cons hc, List.length_cons,
            ih h.2]

/-- **Without carriage returns the same is read, only fewer characters of it.** -/
theorem read_withoutReturns (atLineStart : Bool) (c : Char) {rest : List Char} (h : Paired rest) :
    read atLineStart c (withoutReturns rest) = { read atLineStart c rest with
      more := (withoutReturns (rest.take (read atLineStart c rest).more)).length } := by
  rw [read_eq_extent, read_eq_extent atLineStart c rest, sight_withoutReturns h]
  cases hextent : extent atLineStart c (sight rest) with
  | near reading =>
      have hle := more_le_of_extent_eq_near hextent
      have hnone : '\r' ∉ rest.take reading.more := by
        rw [← take_sight hle]
        exact return_notMem (fun c hc => not_breaksLine_of_mem_sight (List.mem_of_mem_take hc))
      have hlength : (rest.take reading.more).length = reading.more := by
        rw [← take_sight hle, List.length_take_of_le hle]
      dsimp only [Extent.reading]
      rw [withoutReturns_eq_self hnone, hlength]
  | line shape =>
      dsimp only [Extent.reading, Reading.bare]
      rw [lengthToLineEnd_withoutReturns]
  | comment =>
      have hopens := opensRangeComment_of_extent_eq_comment hextent
      rw [opensRangeComment_sight] at hopens
      obtain ⟨_, body, rfl⟩ := exists_body_of_opensRangeComment hopens
      have hbody : Paired body := h.2
      dsimp only [Extent.reading]
      rw [withoutReturns_cons (by decide), List.tail_cons, List.tail_cons, readRangeComment_sight,
        sight_withoutReturns hbody, readRangeComment_sight body,
        lengthThrough_withoutReturns (by decide) not_breaksLine_of_mem_commentClose hbody]
      dsimp only [Reading.bare]
      rw [List.take_succ_cons, withoutReturns_cons (by decide), List.length_cons]
  | string shape close =>
      have hclose : ∀ c ∈ [close], Cursor.breaksLine c = false :=
        List.forall_mem_singleton.mpr
          (not_breaksLine_of_stringMark? (stringMark?_of_extent_eq_string hextent))
      dsimp only [Extent.reading, Reading.beforeParticle]
      rw [lengthThrough_withoutReturns (List.cons_ne_nil _ _) hclose h, drop_withoutReturns,
        ← particle?_sight, sight_withoutReturns (h.drop _), particle?_sight]

/-- A lexeme without the carriage returns in it. -/
def withoutReturns (lexeme : Lexeme) : Lexeme :=
  { lexeme with stem := Text.withoutReturns lexeme.stem }

section step

variable {cur plain : Cursor} {c : Char} {rest : List Char}

/-- One lexeme on each side: the same but for carriage returns, and the cursors stay aligned. -/
theorem ofReading_of_aligned (h : Cursor.Aligned cur plain) (hr : cur.rest = c :: rest)
    (hc : c ≠ '\r') :
    ofReading plain (read plain.atLineStart c (Text.withoutReturns rest))
        = (ofReading cur (read cur.atLineStart c rest)).withoutReturns
      ∧ Cursor.Aligned (after cur (read cur.atLineStart c rest))
          (after plain (read plain.atLineStart c (Text.withoutReturns rest))) := by
  have hpaired : Paired rest := (hr ▸ h.paired : Paired (c :: rest)).2
  rw [h.atLineStart_eq, read_withoutReturns _ _ hpaired]
  have hreads := reads_read cur.atLineStart c rest
  generalize read cur.atLineStart c rest = reading at hreads ⊢
  -- both sides pass the same stem, and then the same particle
  have hlength : (Text.withoutReturns (rest.take reading.more)).length + 1
      = (Text.withoutReturns (cur.rest.take (reading.more + 1))).length := by
    rw [hr, List.take_succ_cons, withoutReturns_cons hc, List.length_cons]
  have hstem := h.advanceBy (reading.more + 1)
  rw [← hlength] at hstem
  have hparticle : (Text.withoutReturns ((cur.advanceBy (reading.more + 1)).rest.take
      reading.particleLength)).length = reading.particleLength := by
    cases hp : reading.particle with
    | none => simp [Reading.particleLength, hp, Text.withoutReturns]
    | some particle =>
        obtain ⟨hmem, later, hlater⟩ := rest_eq_particle_append hr hreads hp
        have hnone := return_notMem (not_breaksLine_of_mem_particles particle hmem)
        rw [hlater, particleLength_eq hp, List.take_left, withoutReturns_eq_self hnone]
  have hafter := hstem.advanceBy reading.particleLength
  rw [hparticle] at hafter
  refine ⟨?_, hafter⟩
  unfold ofReading withoutReturns
  rw [Lexeme.mk.injEq]
  refine ⟨rfl, ?_, rfl, h.position_eq, hstem.position_eq, hafter.position_eq⟩
  dsimp only
  rw [hlength, h.rest_eq, take_withoutReturns]

/-- Outside of other lexemes a carriage return is a blank. -/
theorem read_return (atLineStart : Bool) (rest : List Char) :
    read atLineStart '\r' rest = .bare .blank 0 := rfl

end step

/-- **Side by side the same lexemes are read, but for blanks and carriage returns in stems.** -/
theorem scan_of_aligned {cur plain : Cursor} (h : Cursor.Aligned cur plain) :
    (scan plain).filter (fun lexeme => lexeme.shape != .blank)
      = ((scan cur).filter (fun lexeme => lexeme.shape != .blank)).map withoutReturns := by
  revert plain
  refine reading_induction (motive := fun cur => ∀ {plain : Cursor}, Cursor.Aligned cur plain →
    (scan plain).filter (fun lexeme => lexeme.shape != .blank)
      = ((scan cur).filter (fun lexeme => lexeme.shape != .blank)).map withoutReturns) ?_ ?_ cur
  · intro cur hnil plain h
    have hplain : plain.rest = [] := by rw [h.rest_eq, hnil]; rfl
    rw [scan_of_rest_eq_nil hnil, scan_of_rest_eq_nil hplain]
    rfl
  · intro cur c rest hr ih plain h
    rw [scan_of_rest_eq_cons hr]
    by_cases hc : c = '\r'
    · subst hc
      rw [read_return] at ih ⊢
      rw [List.filter_cons_of_neg (by simp [ofReading, Reading.bare])]
      exact ih (after_bare_zero cur .blank ▸ h.advance_return hr)
    · obtain ⟨hread, hafter⟩ := ofReading_of_aligned h hr hc
      rw [scan_of_rest_eq_cons (h.rest_of_cons hr hc), hread, List.filter_cons, List.filter_cons,
        ih hafter, apply_ite (List.map withoutReturns)]
      rfl

/-! ## Words -/

theorem return_notMem_of_word {cur : Cursor} {lexeme : Lexeme} (h : lexeme ∈ scan cur)
    (hword : lexeme.shape = .word) : '\r' ∉ lexeme.stem := by
  revert h
  refine scan_induction (motive := fun _ lexemes => lexeme ∈ lexemes → '\r' ∉ lexeme.stem) ?_ ?_ cur
  · intro cur _ h
    cases h
  · intro cur c rest reading later hr hreads ih hmem
    rcases List.mem_cons.mp hmem with rfl | hlater
    · cases hreads with
      | word hg =>
          -- a word ends in sight
          have hle := wordEnd_le_length c [] (sight rest)
          rw [wordEnd_sight] at hle
          dsimp only [ofReading]
          rw [hr, List.take_succ_cons, ← take_sight hle]
          apply return_notMem
          intro d hd
          rcases List.mem_cons.mp hd with rfl | hin
          · exact not_breaksLine_of_not_isGapChar hg
          · exact not_breaksLine_of_mem_sight (List.mem_of_mem_take hin)
      | string hg hc =>
          exfalso
          unfold stringMark? at hc
          split_ifs at hc <;> (cases hc; cases hword)
      | rangeComment =>
          exfalso
          dsimp only [ofReading, readRangeComment, Reading.bare] at hword
          split at hword <;> cases hword
      | _ => cases hword
    · exact ih hlater

theorem return_notMem_particleChars {lexeme : Lexeme} (h : lexeme.Sound) :
    '\r' ∉ lexeme.particleChars := by
  unfold particleChars
  split
  · simp
  · next particle hp =>
      exact return_notMem
        (not_breaksLine_of_mem_particles particle (h.particle_mem particle hp).1)

end Lexeme

/-! ## Tokens -/

namespace Token

/-- A token without the carriage returns in its text. -/
def withoutReturns (token : Token) : Token :=
  { token with text := String.ofList (Text.withoutReturns token.text.toList) }

theorem withoutReturns_eq_self {token : Token} (h : '\r' ∉ token.text.toList) :
    token.withoutReturns = token := by
  unfold withoutReturns
  rw [Text.withoutReturns_eq_self h, String.ofList_toList]

theorem ofLexeme_withoutReturns {lexeme : Lexeme} (h : lexeme.Sound) (kind : Kind) :
    ofLexeme kind lexeme.withoutReturns = (ofLexeme kind lexeme).withoutReturns := by
  have hnone := Lexeme.return_notMem_particleChars h
  have htext : lexeme.withoutReturns.text = Text.withoutReturns lexeme.text := by
    rw [Lexeme.text, Lexeme.text, withoutReturns_append, Text.withoutReturns_eq_self hnone]
    rfl
  unfold ofLexeme withoutReturns
  rw [htext]
  dsimp only [Lexeme.withoutReturns]
  cases lexeme.particle with
  | none => simp [plain]
  | some particle =>
      dsimp only [withParticle]
      split <;> simp [plain]

theorem withoutReturns_of_name {text : List Char} {token : Token}
    (h : token ∈ ofLexemes .outside (Lexeme.ofText text))
    (hkind : token.kind = .word ∨ token.kind = .functionName) : token.withoutReturns = token := by
  obtain ⟨lexeme, hmem, hword, hof⟩ := exists_word_of_mem_ofLexemes h hkind
  apply withoutReturns_eq_self
  rw [hof, text_ofLexeme, String.toList_ofList, Lexeme.text, List.mem_append, not_or]
  exact ⟨Lexeme.return_notMem_of_word hmem hword,
    Lexeme.return_notMem_particleChars (Lexeme.sound_of_mem_scan hmem)⟩

end Token

/-- **Without carriage returns a text has the same tokens, but for carriage returns in them.** -/
theorem tokenize_withoutReturns {text : List Char} (h : Paired text) :
    tokenize (withoutReturns text) = (tokenize text).map Token.withoutReturns := by
  have hlexemes : Token.ofLexemes .outside (Lexeme.ofText (withoutReturns text))
      = (Token.ofLexemes .outside (Lexeme.ofText text)).map Token.withoutReturns := by
    rw [← Token.ofLexemes_filter_blank, Lexeme.ofText,
      Lexeme.scan_of_aligned (Cursor.aligned_start h),
      Token.ofLexemes_map (f := Lexeme.withoutReturns) (g := Token.withoutReturns) (fun _ => rfl),
      Token.ofLexemes_filter_blank]
    · rfl
    · intro lexeme hmem hword
      exact Text.withoutReturns_eq_self
        (Lexeme.return_notMem_of_word (List.mem_of_mem_filter hmem) hword)
    · intro lexeme hmem kind
      exact Token.ofLexeme_withoutReturns
        (Lexeme.sound_of_mem_scan (List.mem_of_mem_filter hmem)) kind
  rw [tokenize, hlexemes, Token.markCalls_map (fun _ _ => rfl)]
  · rfl
  · intro token hmem hkind
    rw [Token.withoutReturns_of_name hmem hkind]

/-! ## What comes after the tokens -/

theorem Logged.outcome_bind_congr {α β : Type} {x y : Logged α} {f g : α → Logged β}
    (h : x.outcome = y.outcome) (hfg : ∀ a, (f a).outcome = (g a).outcome) :
    (x >>= f).outcome = (y >>= g).outcome := by
  rw [bind_eq, bind_eq, andThen, andThen, h]
  split
  · exact hfg _
  · rfl

theorem Token.entries_withoutReturns (token : Token) (lineLengths : List Nat) (legend : Legend) :
    (token.withoutReturns.entries lineLengths legend).outcome
      = (token.entries lineLengths legend).outcome := by
  unfold Token.entries
  dsimp only [Token.withoutReturns]
  split
  · rfl
  · split <;> rfl

theorem Entry.ofTokens_withoutReturns (lineLengths : List Nat) (legend : Legend)
    (previous : Position) (tokens : List Token) :
    (Entry.ofTokens lineLengths legend previous (tokens.map Token.withoutReturns)).outcome
      = (Entry.ofTokens lineLengths legend previous tokens).outcome := by
  induction tokens generalizing previous with
  | nil => rfl
  | cons token later ih =>
      rw [List.map_cons, ofTokens, ofTokens]
      apply Logged.outcome_bind_congr (token.entries_withoutReturns lineLengths legend)
      intro entries
      apply Logged.outcome_bind_congr rfl
      intro _
      apply Logged.outcome_bind_congr (ih _)
      intro others
      rfl

theorem Buffer.build_withoutReturns (tokens : List Token) (lineLengths : List Nat)
    (legend : Legend) (resultId : Option String) :
    (Buffer.build (tokens.map Token.withoutReturns) lineLengths legend resultId).outcome
      = (Buffer.build tokens lineLengths legend resultId).outcome := by
  unfold Buffer.build
  apply Logged.outcome_bind_congr (Entry.ofTokens_withoutReturns lineLengths legend .zero tokens)
  intro entries
  rfl

theorem Token.spanAt?_withoutReturns (tokens : List Token) (p : Position) :
    spanAt? (tokens.map withoutReturns) p = spanAt? tokens p := by
  unfold spanAt? at? endingAfter
  rw [List.dropWhile_map, List.dropWhile_map, List.head?_map, Option.filter_map, Option.map_map]
  rfl

/--
**Both kinds of line ends give the same answers.**

When every line feed of a text gets a carriage return before it, the lengths of lines stay, and so
do the tokens with all their numbers; only their texts may have carriage returns more. The highlight
and the stretch at a position are therefore the same.
-/
theorem tokenize_withReturns (text : List Char) (h : '\r' ∉ text) :
    lineLengths (withReturns text) = lineLengths text
      ∧ tokenize text = (tokenize (withReturns text)).map Token.withoutReturns
      ∧ (∀ (legend : Legend) (resultId : Option String),
        (Buffer.build (tokenize (withReturns text)) (lineLengths (withReturns text)) legend
            resultId).outcome
          = (Buffer.build (tokenize text) (lineLengths text) legend resultId).outcome)
      ∧ ∀ p : Position,
        Token.spanAt? (tokenize (withReturns text)) p = Token.spanAt? (tokenize text) p := by
  have hpaired := paired_withReturns h
  have hlengths : lineLengths (withReturns text) = lineLengths text := by
    rw [← lineLengths_withoutReturns hpaired, withoutReturns_withReturns h]
  have htokens : tokenize text = (tokenize (withReturns text)).map Token.withoutReturns := by
    rw [← tokenize_withoutReturns hpaired, withoutReturns_withReturns h]
  refine ⟨hlengths, htokens, ?_, ?_⟩
  · intro legend resultId
    rw [hlengths, htokens, Buffer.build_withoutReturns]
  · intro p
    rw [htokens, Token.spanAt?_withoutReturns]

/-- A comment and a string over two lines, both of which take a carriage return in. -/
theorem tokenize_withReturns_comment_string :
    '\r' ∉ "# 足す\n「あ\nい」を表示".toList
      ∧ (tokenize (withReturns "# 足す\n「あ\nい」を表示".toList)).map (fun t => (t.text, t.stop))
        = [("# 足す\r", ⟨0, 4⟩), ("「あ\r\nい」を", ⟨2, 3⟩), ("表示", ⟨2, 5⟩)]
      ∧ lineLengths (withReturns "# 足す\n「あ\nい」を表示".toList)
        = lineLengths "# 足す\n「あ\nい」を表示".toList
      ∧ tokenize "# 足す\n「あ\nい」を表示".toList
        = (tokenize (withReturns "# 足す\n「あ\nい」を表示".toList)).map Token.withoutReturns :=
  have h : '\r' ∉ "# 足す\n「あ\nい」を表示".toList := by decide
  ⟨h, by decide +kernel, (tokenize_withReturns _ h).1, (tokenize_withReturns _ h).2.1⟩

end Nadesiko
