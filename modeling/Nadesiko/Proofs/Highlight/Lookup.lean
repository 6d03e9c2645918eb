import Mathlib
import Nadesiko.Proofs.Highlight.Buffer
import Nadesiko.Text.Lines

/-!
# A buffer agrees with looking positions up

There are two ways to learn what stands at a position: to look the position up among the tokens, and
to find the entry of the buffer that covers it. Both describe the same text. An entry covers only
positions of its token, and conversely a position of a classified token is covered unless it lies
where nothing is highlighted: behind the end of its line, or on a particle that is left out.

Entries do not overlap, so a position is never covered twice.
-/

namespace Nadesiko

open Text

namespace Entry

/-- An entry covers the columns of its stretch, on its line. -/
def Covers (entry : Entry) (p : Position) : Prop :=
  entry.start.line = p.line ∧ entry.start.column ≤ p.column
    ∧ p.column < entry.start.column + entry.length

instance (entry : Entry) (p : Position) : Decidable (entry.Covers p) :=
  inferInstanceAs (Decidable (_ ∧ _ ∧ _))

theorem covers_iff {entry : Entry} {p : Position} :
    entry.Covers p ↔ entry.start ≤ p ∧ p < entry.stop := by
  unfold Covers
  rw [Position.le_iff, Position.lt_iff]
  dsimp only [stop]
  omega

/-- Where entries do not overlap, an entry that covers a position is the only one. -/
theorem filter_covers {entries : List Entry} {entry : Entry} {p : Position}
    (hpair : entries.Pairwise (fun earlier later => earlier.stop ≤ later.start))
    (hmem : entry ∈ entries) (hcovers : entry.Covers p) :
    entries.filter (fun other => other.Covers p) = [entry] := by
  obtain ⟨before, after, rfl⟩ := List.append_of_mem hmem
  rw [covers_iff] at hcovers
  have hbefore : before.filter (fun other => other.Covers p) = [] := by
    rw [List.filter_eq_nil_iff]
    intro other hother hcovered
    rw [decide_eq_true_eq, covers_iff] at hcovered
    have hle := (List.pairwise_append.mp hpair).2.2 other hother entry (List.mem_cons_self ..)
    exact Position.not_lt.mpr (Position.le_trans hle hcovers.1) hcovered.2
  have hafter : after.filter (fun other => other.Covers p) = [] := by
    rw [List.filter_eq_nil_iff]
    intro other hother hcovered
    rw [decide_eq_true_eq, covers_iff] at hcovered
    have hle := (List.pairwise_cons.mp (List.pairwise_append.mp hpair).2.1).1 other hother
    exact Position.not_lt.mpr (Position.le_trans hle hcovered.1) hcovers.2
  rw [List.filter_append, List.filter_cons_of_pos (by rwa [decide_eq_true_eq, covers_iff]),
    hbefore, hafter, List.nil_append]

end Entry

/-- The standard legend lists every classification. -/
theorem Legend.lists_standard (c : Classification) : Legend.standard.Lists c :=
  ⟨Category.mem_all _, fun m _ => Modifier.mem_all m⟩

namespace Token

/-- A position is on the part of a token that is highlighted: on an earlier line before the end of
that line, and on the last line before the end of the highlight. -/
def Highlights (token : Token) (excludeParticle : Bool) (lineLengths : List Nat) (p : Position) :
    Prop :=
  (p.line < token.stop.line ∧ ∃ length, lineLengths[p.line]? = some length ∧ p.column < length)
    ∨ (p.line = token.stop.line ∧ p.column < token.highlightStop excludeParticle)

variable {tokens : List Token} {lineLengths : List Nat} {legend : Legend} {p : Position}

theorem covers_segmentOn {token : Token} {excludeParticle : Bool} (hstart : token.start ≤ p)
    (h : token.Highlights excludeParticle lineLengths p) :
    (token.segmentOn excludeParticle lineLengths p.line).start.column ≤ p.column
      ∧ p.column < (token.segmentOn excludeParticle lineLengths p.line).stop.column := by
  rw [Position.le_iff] at hstart
  dsimp only [segmentOn, Segment.stop]
  rcases h with ⟨hline, length, hlength, hcolumn⟩ | ⟨hline, hcolumn⟩
  · rw [if_neg (Nat.ne_of_lt hline), hlength, Option.getD_some]
    split <;> omega
  · rw [if_pos hline]
    split <;> omega

/-- **The token at a covered position is the one that the entry belongs to.** -/
theorem at?_of_covers (hs : Successive tokens) {entry : Entry}
    (hmem : entry ∈ tokens.flatMap (highlight lineLengths legend)) (hcovers : entry.Covers p) :
    ∃ token c, at? tokens p = some token ∧ token.kind.classification? = some c ∧ legend.Lists c
      ∧ entry.category = legend.categories.idxOf c.category
      ∧ entry.modifiers = legend.bits c.modifiers := by
  obtain ⟨token, htoken, hentry⟩ := List.mem_flatMap.mp hmem
  obtain ⟨c, hc, hlists, hcategory, hmodifiers, _⟩ := mem_highlight_iff.mp hentry
  obtain ⟨hfirst, hlast, _⟩ := highlight_inside (hs.start_le_stop token htoken)
    (hs.contentStop_le token htoken) hentry
  rw [Entry.covers_iff] at hcovers
  have hat : at? tokens p = some token := by
    rw [at?_eq_some_iff hs.inOrder]
    exact ⟨htoken, Position.le_trans hfirst hcovers.1, Position.lt_of_lt_of_le hcovers.2 hlast⟩
  exact ⟨token, c, hat, hc, hlists, hcategory, hmodifiers⟩

/-- **What is highlighted of a token is covered.** -/
theorem exists_covers (hs : Successive tokens) {token : Token} (hat : at? tokens p = some token)
    {c : Classification} (hc : token.kind.classification? = some c) (hlists : legend.Lists c)
    (h : token.Highlights (token.kind.excludesParticle c) lineLengths p) :
    ∃ entry ∈ tokens.flatMap (highlight lineLengths legend), entry.Covers p := by
  obtain ⟨htoken, hstart, _⟩ := (at?_eq_some_iff hs.inOrder).mp hat
  have hcolumns := covers_segmentOn hstart h
  have hlines : token.start.line ≤ p.line ∧ p.line ≤ token.stop.line := by
    rw [Position.le_iff] at hstart
    rcases h with ⟨hline, _⟩ | ⟨hline, _⟩ <;> omega
  -- the entry is made of the token's segment on the line of the position
  let segment := token.segmentOn (token.kind.excludesParticle c) lineLengths p.line
  let entry : Entry := ⟨segment.start, segment.length, legend.categories.idxOf c.category,
    legend.bits c.modifiers⟩
  have hentry : entry ∈ token.highlight lineLengths legend :=
    mem_highlight_iff.mpr ⟨c, hc, hlists, rfl, rfl, mem_segments_iff.mpr ⟨hlines, rfl⟩⟩
  exact ⟨entry, List.mem_flatMap.mpr ⟨token, htoken, hentry⟩, rfl, hcolumns⟩

end Token

open Token in
/--
**A buffer and looking up a position describe the same text.**

Each position that an entry of the buffer covers is one of a token with the category and the
modifiers of the entry. Each position on the highlighted part of a classified token is covered by
exactly one entry.
-/
theorem covers_iff_at?_tokenize (text : List Char) (hlen : units text < wordLimit)
    (resultId : Option String) :
    ∃ buffer entries,
      (Buffer.build (tokenize text) (lineLengths text) .standard resultId).outcome = .ok buffer
        ∧ Delta.decode buffer.data = .ok entries
        ∧ (∀ entry ∈ entries, ∀ p, entry.Covers p →
          ∃ token c, at? (tokenize text) p = some token ∧ token.kind.classification? = some c
            ∧ Legend.standard.encode c = .ok (entry.category, entry.modifiers))
        ∧ ∀ p token c, at? (tokenize text) p = some token →
          token.kind.classification? = some c →
          token.Highlights (token.kind.excludesParticle c) (lineLengths text) p →
          ∃ entry, entries.filter (fun entry => entry.Covers p) = [entry] := by
  have hs := successive_tokenize text
  have hl : Legend.standard.modifiers.length ≤ wordBits := by decide
  obtain ⟨buffer, hbuffer, hdecode⟩ := Buffer.build_decode hs
    (fun token h => fitsWords_of_mem_tokenize hlen h) hl (lineLengths text) resultId
  refine ⟨buffer, _, hbuffer, hdecode, ?_, ?_⟩
  · intro entry hmem p hcovers
    obtain ⟨token, c, hat, hc, hlists, hcategory, hmodifiers⟩ := at?_of_covers hs hmem hcovers
    refine ⟨token, c, hat, hc, ?_⟩
    rw [Legend.encode_eq_ok_iff hl, hcategory, hmodifiers]
    exact ⟨hlists, rfl⟩
  · intro p token c hat hc h
    obtain ⟨entry, hmem, hcovers⟩ := exists_covers hs hat hc (Legend.lists_standard c) h
    exact ⟨entry, Entry.filter_covers
      (pairwise_flatMap_highlight hs (lineLengths text) .standard) hmem hcovers⟩

/-- On the first line of a string that goes on below, up to the end of that line: one entry covers
the place, and it has the category of the string that is there. -/
theorem covers_iff_at?_tokenize_first_line :
    units "「あ\nい」を".toList < wordLimit
      ∧ (Token.at? (tokenize "「あ\nい」を".toList) ⟨0, 1⟩).map Token.kind = some .string
      ∧ ∃ buffer entries entry,
        (Buffer.build (tokenize "「あ\nい」を".toList) (lineLengths "「あ\nい」を".toList) .standard
          none).outcome = .ok buffer
          ∧ Delta.decode buffer.data = .ok entries
          ∧ entries.filter (fun entry => entry.Covers ⟨0, 1⟩) = [entry]
          ∧ Legend.standard.encode ⟨.string, []⟩ = .ok (entry.category, entry.modifiers) := by
  have hlen : units "「あ\nい」を".toList < wordLimit := by decide
  have hat : Token.at? (tokenize "「あ\nい」を".toList) ⟨0, 1⟩
      = some ⟨.string, "「あ\nい」を", ⟨0, 0⟩, ⟨1, 3⟩, 2, "を", some 2⟩ := by decide +kernel
  have hlengths : lineLengths "「あ\nい」を".toList = [2, 3] := by decide +kernel
  obtain ⟨buffer, entries, hbuffer, hdecode, hcovers, hcovered⟩ :=
    covers_iff_at?_tokenize "「あ\nい」を".toList hlen none
  obtain ⟨entry, hentry⟩ := hcovered ⟨0, 1⟩ _ ⟨.string, []⟩ hat rfl
    (Or.inl ⟨by decide, 2, by rw [hlengths]; rfl, by decide⟩)
  have hmem : entry ∈ entries.filter (fun entry => entry.Covers ⟨0, 1⟩) := by
    rw [hentry]
    exact List.mem_singleton_self entry
  rw [List.mem_filter, decide_eq_true_eq] at hmem
  obtain ⟨token, c, hat', hc, hencode⟩ := hcovers entry hmem.1 ⟨0, 1⟩ hmem.2
  rw [hat, Option.some.injEq] at hat'
  rw [← hat'] at hc
  rw [← Option.some.inj hc] at hencode
  exact ⟨hlen, by rw [hat]; rfl, buffer, entries, entry, hbuffer, hdecode, hentry, hencode⟩

end Nadesiko
