import Mathlib
import Nadesiko.Hover
import Nadesiko.Proofs.Token.WellFormed

/-!
# Finding a token, and the part of it that is meant

Looking up a position skips the tokens that end before it in two rounds, by line and then by column.
On tokens that stand in order this leaves exactly the tokens that end after the position, so the
first of them is the only one that can cover it: `at?_eq_some_iff`.

The part of the token is then chosen by the column alone. That is right on the last line of a token,
which is the line of its particle. On an earlier line of a token with a particle, a column can lie
beyond the particle's column although the position is long before the particle, and the particle is
shown all the same. `points_spanAt_iff` says that this is the only way in which the choice fails.
-/

namespace Nadesiko

open Text Lexicon

/-- Skipping from the left skips everything, if whatever is skipped has nothing unskipped before
it. -/
theorem dropWhile_eq_filter {α : Type} {skip : α → Bool} {l : List α}
    (h : l.Pairwise (fun earlier later => skip later = true → skip earlier = true)) :
    l.dropWhile skip = l.filter (fun a => !skip a) := by
  induction l with
  | nil => rfl
  | cons a l ih =>
      obtain ⟨hhead, htail⟩ := List.pairwise_cons.mp h
      cases ha : skip a with
      | true => rw [List.dropWhile_cons_of_pos ha, List.filter_cons_of_neg (by simp [ha]), ih htail]
      | false =>
          have hall : ∀ b ∈ a :: l, (!skip b) = true := by
            intro b hb
            rcases List.mem_cons.mp hb with rfl | hb
            · simp [ha]
            · cases hs : skip b with
              | false => rfl
              | true => rw [hhead b hb hs] at ha; cases ha
          rw [List.dropWhile_cons_of_neg (by simp [ha]), List.filter_eq_self.mpr hall]

namespace Token

/-- Tokens that follow each other: none goes back, and each stops before the next one starts. -/
structure InOrder (tokens : List Token) : Prop where
  start_le_stop : ∀ token ∈ tokens, token.start ≤ token.stop
  stop_le_start : tokens.Pairwise (fun earlier later => earlier.stop ≤ later.start)

theorem inOrder_tokenize (text : List Char) : InOrder (tokenize text) where
  start_le_stop := fun _ h => Position.le_of_lt (wellFormed_of_mem_tokenize h).start_lt_stop
  stop_le_start := pairwise_tokenize text

/-- A token that stops before the next one starts does so before all later ones start. -/
theorem inOrder_of_isChain {tokens : List Token}
    (hspan : ∀ token ∈ tokens, token.start ≤ token.stop)
    (hnext : tokens.IsChain (fun token next => token.stop ≤ next.start)) : InOrder tokens := by
  refine ⟨hspan, ?_⟩
  induction tokens with
  | nil => exact List.Pairwise.nil
  | cons token later ih =>
      have hspans := (List.forall_mem_cons.mp hspan).2
      have hlater := ih hspans hnext.tail
      refine List.pairwise_cons.mpr ⟨?_, hlater⟩
      cases later with
      | nil => simp
      | cons next others =>
          have hle := (List.isChain_cons_cons.mp hnext).1
          have hown := (List.forall_mem_cons.mp hspans).1
          intro other hmem
          rcases List.mem_cons.mp hmem with rfl | hmem
          · exact hle
          · have hbehind := (List.pairwise_cons.mp hlater).1 other hmem
            exact Position.le_trans hle (Position.le_trans hown hbehind)

/-- Tokens in order also stop in order. -/
theorem InOrder.stop_le_stop {tokens : List Token} (h : InOrder tokens) :
    tokens.Pairwise (fun earlier later => earlier.stop ≤ later.stop) := by
  refine h.stop_le_start.imp_of_mem ?_
  intro earlier later _ hlater hle
  exact Position.le_trans hle (h.start_le_stop later hlater)

/-! ## The covering token -/

theorem endingAfter_eq_filter {tokens : List Token} (h : InOrder tokens) (p : Position) :
    endingAfter tokens p = tokens.filter (fun token => p < token.stop) := by
  have hstops := h.stop_le_stop
  -- earlier lines first: a token that is skipped has only tokens before it that are skipped
  have hlines : tokens.dropWhile (fun t => t.stop.line < p.line)
      = tokens.filter (fun t => !decide (t.stop.line < p.line)) := by
    refine dropWhile_eq_filter (hstops.imp ?_)
    intro earlier later hle hskip
    rw [Position.le_iff] at hle
    simp only [decide_eq_true_eq] at hskip ⊢
    omega
  rw [endingAfter, hlines, dropWhile_eq_filter, List.filter_filter]
  · refine List.filter_congr ?_
    intro token _
    rw [Bool.eq_iff_iff]
    simp only [Bool.and_eq_true, Bool.not_eq_true', Bool.and_eq_false_iff, beq_eq_false_iff_ne,
      decide_eq_false_iff_not, decide_eq_true_eq, Position.lt_iff]
    omega
  · refine (hstops.filter _).imp_of_mem ?_
    intro earlier later hearlier _ hle hskip
    have hline := (List.mem_filter.mp hearlier).2
    rw [Position.le_iff] at hle
    simp only [Bool.not_eq_true', decide_eq_false_iff_not] at hline
    simp only [Bool.and_eq_true, beq_iff_eq, decide_eq_true_eq] at hskip ⊢
    omega

/-- **Among tokens in order, the one that is found is the one that covers the position.** -/
theorem at?_eq_some_iff {tokens : List Token} (h : InOrder tokens) {p : Position} {token : Token} :
    at? tokens p = some token ↔ token ∈ tokens ∧ token.start ≤ p ∧ p < token.stop := by
  rw [at?, endingAfter_eq_filter h, Option.filter_eq_some_iff, decide_eq_true_eq]
  constructor
  · rintro ⟨hhead, hstart⟩
    obtain ⟨hmem, hstop⟩ := List.mem_filter.mp (List.mem_of_mem_head? hhead)
    exact ⟨hmem, hstart, of_decide_eq_true hstop⟩
  · rintro ⟨hmem, hstart, hstop⟩
    refine ⟨?_, hstart⟩
    have hin : token ∈ tokens.filter (fun token => decide (p < token.stop)) :=
      List.mem_filter.mpr ⟨hmem, decide_eq_true hstop⟩
    have hord := h.stop_le_start.filter (fun token => decide (p < token.stop))
    cases hl : tokens.filter (fun token => decide (p < token.stop)) with
    | nil => rw [hl] at hin; cases hin
    | cons first later =>
        rw [hl] at hin hord
        rcases List.mem_cons.mp hin with rfl | hlater
        · rfl
        · -- an earlier token would end before this one starts, so before the position
          exfalso
          have hfirst : first ∈ tokens.filter (fun token => decide (p < token.stop)) := by
            rw [hl]; exact List.mem_cons_self ..
          have hlt : p < first.stop := of_decide_eq_true (List.mem_filter.mp hfirst).2
          have hle := (List.pairwise_cons.mp hord).1 token hlater
          exact Position.not_lt.mpr (Position.le_trans hle hstart) hlt

/-! ## The part that is shown -/

/-- A stretch is what a position in a token asks for: it contains the position, it is the particle
exactly if the position is on the particle and what stands before the particle exactly if it is not,
and it is the whole token if there is no particle. -/
structure Points (token : Token) (p : Position) (span : Span) : Prop where
  start_le : span.start ≤ p
  lt_stop : p < span.stop
  whole : token.particleStart = none → span = ⟨token.start, token.stop⟩
  particle : ∀ column, token.particleStart = some column →
    (span = ⟨⟨token.stop.line, column⟩, token.stop⟩ ↔ ⟨token.stop.line, column⟩ ≤ p)
  content : ∀ column, token.particleStart = some column →
    (span = ⟨token.start, ⟨token.stop.line, column⟩⟩ ↔ p < ⟨token.stop.line, column⟩)

/-- A position before the last line of a token, in a column that the particle has already begun in
on the last line. -/
def Misread (token : Token) (p : Position) : Prop :=
  p.line < token.stop.line ∧ ∃ column, token.particleStart = some column ∧ column ≤ p.column

theorem spanAt_of_none {token : Token} (h : token.particleStart = none) (column : Nat) :
    token.spanAt column = ⟨token.start, token.stop⟩ := by
  rw [spanAt, h]

theorem spanAt_of_some {token : Token} (hw : token.WellFormed) {particleStart : Nat}
    (h : token.particleStart = some particleStart) (column : Nat) :
    token.spanAt column
      = if column < particleStart then ⟨token.start, ⟨token.stop.line, particleStart⟩⟩
        else ⟨⟨token.stop.line, particleStart⟩, token.stop⟩ := by
  have hne : token.particle ≠ "" := hw.isSome_particleStart.mp (by rw [h]; rfl)
  have hhas : token.hasParticle = true := by simpa [hasParticle] using hne
  rw [spanAt, h]
  dsimp only
  rw [if_pos hhas]

theorem start_lt_particle {token : Token} (hw : token.WellFormed) {particleStart : Nat}
    (h : token.particleStart = some particleStart) :
    token.start < ⟨token.stop.line, particleStart⟩ := by
  have hne : token.particle ≠ "" := hw.isSome_particleStart.mp (by rw [h]; rfl)
  have heq := hw.particleStart_eq hne
  rw [h] at heq
  rw [Option.some.inj heq]
  exact hw.start_lt_contentEnd

/-- Comparing whole positions instead of columns always finds the part that is asked for. -/
theorem points_part {token : Token} (hw : token.WellFormed) {p : Position}
    (hstart : token.start ≤ p) (hstop : p < token.stop) {particleStart : Nat}
    (h : token.particleStart = some particleStart) :
    token.Points p
      (if p < ⟨token.stop.line, particleStart⟩ then
        ⟨token.start, ⟨token.stop.line, particleStart⟩⟩
      else ⟨⟨token.stop.line, particleStart⟩, token.stop⟩) := by
  have hroom := start_lt_particle hw h
  -- the two parts start in different places, so they cannot be taken for each other
  have hne : (⟨token.start, ⟨token.stop.line, particleStart⟩⟩ : Span)
      ≠ ⟨⟨token.stop.line, particleStart⟩, token.stop⟩ := by
    intro heq
    have hstarts : token.start = ⟨token.stop.line, particleStart⟩ := congrArg Span.start heq
    rw [← hstarts] at hroom
    exact Position.not_lt.mpr (Position.le_refl _) hroom
  have hcolumn : ∀ column, token.particleStart = some column → column = particleStart := by
    intro column hc
    rw [h] at hc
    exact (Option.some.inj hc).symm
  have hnone : token.particleStart ≠ none := by
    rw [h]
    exact Option.some_ne_none _
  by_cases hbefore : p < ⟨token.stop.line, particleStart⟩
  · rw [if_pos hbefore]
    refine ⟨hstart, hbefore, fun hn => absurd hn hnone, ?_, ?_⟩
    · intro column hc
      rw [hcolumn column hc]
      exact iff_of_false hne (fun hle => Position.not_lt.mpr hle hbefore)
    · intro column hc
      rw [hcolumn column hc]
      exact iff_of_true rfl hbefore
  · rw [if_neg hbefore]
    refine ⟨Position.not_lt.mp hbefore, hstop, fun hn => absurd hn hnone, ?_, ?_⟩
    · intro column hc
      rw [hcolumn column hc]
      exact iff_of_true rfl (Position.not_lt.mp hbefore)
    · intro column hc
      rw [hcolumn column hc]
      exact iff_of_false hne.symm hbefore

/-- **The part that is shown is the one asked for, unless the position is misread.** -/
theorem points_spanAt_iff {token : Token} (hw : token.WellFormed) {p : Position}
    (hstart : token.start ≤ p) (hstop : p < token.stop) :
    token.Points p (token.spanAt p.column) ↔ ¬ token.Misread p := by
  cases h : token.particleStart with
  | none =>
      rw [spanAt_of_none h]
      constructor
      · rintro - ⟨_, column, hc, _⟩
        rw [h] at hc
        cases hc
      · intro _
        refine ⟨hstart, hstop, fun _ => rfl, ?_, ?_⟩ <;>
          (intro column hc; rw [h] at hc; cases hc)
  | some particleStart =>
      rw [spanAt_of_some hw h]
      constructor
      · rintro hpoints ⟨hline, column, hc, hle⟩
        rw [h] at hc
        have hcol : ¬ p.column < particleStart := by
          rw [Option.some.inj hc]
          exact Nat.not_lt.mpr hle
        -- the particle is shown, but it starts on a later line than the position
        have hon := hpoints.start_le
        rw [if_neg hcol, Position.le_iff] at hon
        dsimp only at hon
        omega
      · intro hread
        have hsame : p.column < particleStart ↔ p < ⟨token.stop.line, particleStart⟩ := by
          have hline : p.line < token.stop.line → p.column < particleStart := by
            intro hlt
            by_contra hcol
            exact hread ⟨hlt, particleStart, h, Nat.not_lt.mp hcol⟩
          rw [Position.lt_iff] at hstop ⊢
          dsimp only
          omega
        have hpart := points_part hw hstart hstop h
        simpa only [hsame] using hpart

end Token

open Token

/--
**What is shown at a position of a text is the part of the token that the position asks for, unless
the position is misread.**

The token is the one that covers the position, and a hover shows the same stretch. Where the
position is misread, the stretch is the particle, which starts only after the position.
-/
theorem spanAt?_tokenize_points_iff (text : List Char) {p : Position} {span : Span}
    (h : spanAt? (tokenize text) p = some span) :
    ∃ token, at? (tokenize text) p = some token
      ∧ token ∈ tokenize text ∧ token.start ≤ p ∧ p < token.stop
      ∧ (Hover.at? (tokenize text) p).map Hover.span = some span
      ∧ (token.Points p span ↔ ¬ token.Misread p)
      ∧ (token.Misread p → p < span.start ∧ span.stop = token.stop) := by
  obtain ⟨token, hat, hspan⟩ := Option.map_eq_some_iff.mp h
  obtain ⟨hmem, hstart, hstop⟩ := (at?_eq_some_iff (inOrder_tokenize text)).mp hat
  have hw := wellFormed_of_mem_tokenize hmem
  refine ⟨token, hat, hmem, hstart, hstop, ?_, ?_, ?_⟩
  · rw [Hover.at?, hat, ← hspan]
    rfl
  · rw [← hspan]
    exact points_spanAt_iff hw hstart hstop
  · rintro ⟨hline, column, hcolumn, hle⟩
    rw [← hspan, spanAt_of_some hw hcolumn, if_neg (Nat.not_lt.mpr hle)]
    exact ⟨Or.inl hline, rfl⟩

/-- On the last line of a string over two lines, the particle is told apart from the content. -/
theorem spanAt?_tokenize_points_iff_last_line :
    spanAt? (tokenize "「ああ\nい」を".toList) ⟨1, 2⟩ = some ⟨⟨1, 2⟩, ⟨1, 3⟩⟩
      ∧ ∃ token, at? (tokenize "「ああ\nい」を".toList) ⟨1, 2⟩ = some token
        ∧ (token.Points ⟨1, 2⟩ ⟨⟨1, 2⟩, ⟨1, 3⟩⟩ ↔ ¬ token.Misread ⟨1, 2⟩) := by
  have h : spanAt? (tokenize "「ああ\nい」を".toList) ⟨1, 2⟩ = some ⟨⟨1, 2⟩, ⟨1, 3⟩⟩ := by
    decide +kernel
  obtain ⟨token, hat, _, _, _, _, hpoints, _⟩ := spanAt?_tokenize_points_iff _ h
  exact ⟨h, token, hat, hpoints⟩

/-- On the first line of the same string, the particle is shown for a position before it. -/
theorem spanAt?_tokenize_not_points :
    ∃ token span, at? (tokenize "「ああ\nい」を".toList) ⟨0, 2⟩ = some token
      ∧ spanAt? (tokenize "「ああ\nい」を".toList) ⟨0, 2⟩ = some span
      ∧ (Hover.at? (tokenize "「ああ\nい」を".toList) ⟨0, 2⟩).map Hover.span = some span
      ∧ span = ⟨⟨1, 2⟩, ⟨1, 3⟩⟩ ∧ ¬ span.start ≤ ⟨0, 2⟩ ∧ ¬ token.Points ⟨0, 2⟩ span := by
  have h : spanAt? (tokenize "「ああ\nい」を".toList) ⟨0, 2⟩ = some ⟨⟨1, 2⟩, ⟨1, 3⟩⟩ := by
    decide +kernel
  have hover : (Hover.at? (tokenize "「ああ\nい」を".toList) ⟨0, 2⟩).map Hover.span
      = some ⟨⟨1, 2⟩, ⟨1, 3⟩⟩ := by
    decide +kernel
  have hbefore : ¬ (⟨1, 2⟩ : Position) ≤ ⟨0, 2⟩ := by decide
  obtain ⟨token, hat, _⟩ := Option.map_eq_some_iff.mp h
  exact ⟨token, _, hat, h, hover, rfl, hbefore, fun hpoints => hbefore hpoints.start_le⟩

end Nadesiko
