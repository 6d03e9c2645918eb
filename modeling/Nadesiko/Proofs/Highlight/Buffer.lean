import Mathlib
import Nadesiko.Proofs.Highlight.Delta
import Nadesiko.Proofs.Highlight.Representable
import Nadesiko.Proofs.Highlight.Segment
import Nadesiko.Proofs.Token.Lookup

/-!
# A buffer holds the highlights of its tokens

What is to be highlighted can be said without any encoding: each token that is classified, and whose
category and modifiers the legend lists, contributes its segments with its index and its bits. This
is `Token.highlight`, and the entries of a list of tokens are the highlights of its members, one
after the other.

That these entries survive the encoding is a matter of order. A token's segments lie inside of it,
one on each line, so entries of tokens that follow each other follow each other as well, however
many tokens between them are left out. They do not even overlap.
-/

namespace Nadesiko

open Text

/-! ## What a legend lists -/

theorem idxOf?_of_mem {α : Type} [BEq α] [LawfulBEq α] {a : α} {l : List α} (h : a ∈ l) :
    l.idxOf? a = some (l.idxOf a) := by
  cases hi : l.idxOf? a with
  | none => exact absurd h (List.idxOf?_eq_none_iff.mp hi)
  | some i => rw [List.idxOf_eq_getD_idxOf?, hi, Option.getD_some]

namespace Legend

/-- A legend has the category and all modifiers of a classification. -/
def Lists (legend : Legend) (c : Classification) : Prop :=
  c.category ∈ legend.categories ∧ ∀ m ∈ c.modifiers, m ∈ legend.modifiers

instance (legend : Legend) (c : Classification) : Decidable (legend.Lists c) :=
  inferInstanceAs (Decidable (_ ∧ _))

/-- The word with the bits at the first indices of the given modifiers. -/
def bits (legend : Legend) (modifiers : List Modifier) : Nat :=
  modifiers.foldl (fun bits m => bits ||| 1 <<< legend.modifiers.idxOf m) 0

theorem categoryIndex_eq_ok_iff {legend : Legend} {c : Category} {index : Nat} :
    legend.categoryIndex c = .ok index
      ↔ c ∈ legend.categories ∧ index = legend.categories.idxOf c := by
  unfold categoryIndex
  by_cases hc : c ∈ legend.categories
  · rw [idxOf?_of_mem hc]
    simp [hc, eq_comm]
  · rw [List.idxOf?_eq_none_iff.mpr hc]
    simp [hc]

theorem modifierBit_eq_ok_iff {legend : Legend} (hl : legend.modifiers.length ≤ wordBits)
    {m : Modifier} {bit : Nat} :
    legend.modifierBit m = .ok bit
      ↔ m ∈ legend.modifiers ∧ bit = 1 <<< legend.modifiers.idxOf m := by
  unfold modifierBit
  by_cases hm : m ∈ legend.modifiers
  · have hlt : legend.modifiers.idxOf m < wordBits :=
      Nat.lt_of_lt_of_le (List.idxOf_lt_length_of_mem hm) hl
    rw [idxOf?_of_mem hm]
    simp [hm, hlt, eq_comm]
  · rw [List.idxOf?_eq_none_iff.mpr hm]
    simp [hm]

theorem foldlM_modifierBit_eq_ok_iff {legend : Legend} (hl : legend.modifiers.length ≤ wordBits)
    {modifiers : List Modifier} {bits result : Nat} :
    modifiers.foldlM (fun bits m => return bits ||| (← legend.modifierBit m)) bits = .ok result
      ↔ (∀ m ∈ modifiers, m ∈ legend.modifiers)
        ∧ result
          = modifiers.foldl (fun bits m => bits ||| 1 <<< legend.modifiers.idxOf m) bits := by
  induction modifiers generalizing bits with
  | nil => simp [pure, Except.pure, eq_comm]
  | cons m modifiers ih =>
      rw [List.foldlM_cons, bind_eq_ok_iff, List.forall_mem_cons, List.foldl_cons]
      simp only [bind_eq_ok_iff, modifierBit_eq_ok_iff hl, pure_eq_ok_iff, ih]
      constructor
      · rintro ⟨_, ⟨_, ⟨hm, rfl⟩, rfl⟩, hmore, hresult⟩
        exact ⟨⟨hm, hmore⟩, hresult⟩
      · rintro ⟨⟨hm, hmore⟩, hresult⟩
        exact ⟨_, ⟨_, ⟨hm, rfl⟩, rfl⟩, hmore, hresult⟩

/-- **A legend can write exactly the classifications that it lists.** -/
theorem encode_eq_ok_iff {legend : Legend} (hl : legend.modifiers.length ≤ wordBits)
    {c : Classification} {tags : Nat × Nat} :
    legend.encode c = .ok tags
      ↔ legend.Lists c
        ∧ tags = (legend.categories.idxOf c.category, legend.bits c.modifiers) := by
  unfold encode
  simp only [bind_eq_ok_iff, categoryIndex_eq_ok_iff, modifierBits,
    foldlM_modifierBit_eq_ok_iff hl, pure_eq_ok_iff]
  constructor
  · rintro ⟨_, ⟨hc, rfl⟩, _, ⟨hm, rfl⟩, rfl⟩
    exact ⟨⟨hc, hm⟩, rfl⟩
  · rintro ⟨⟨hc, hm⟩, rfl⟩
    exact ⟨_, ⟨hc, rfl⟩, _, ⟨hm, rfl⟩, rfl⟩

end Legend

/-! ## One token -/

/-- The place right after an entry. -/
def Entry.stop (entry : Entry) : Position :=
  ⟨entry.start.line, entry.start.column + entry.length⟩

theorem Entry.start_le_stop (entry : Entry) : entry.start ≤ entry.stop :=
  Or.inr ⟨rfl, Nat.le_add_right _ _⟩

namespace Token

/-- What is highlighted of a token: its segments, with the index of its category and the bits of its
modifiers. A token that is not classified, or whose category or modifiers the legend does not list,
is not highlighted. -/
def highlight (lineLengths : List Nat) (legend : Legend) (token : Token) : List Entry :=
  match token.kind.classification? with
  | none => []
  | some c =>
    if legend.Lists c then
      (token.segments (token.kind.excludesParticle c) lineLengths).map (fun segment =>
        ⟨segment.start, segment.length, legend.categories.idxOf c.category,
          legend.bits c.modifiers⟩)
    else []

variable {lineLengths : List Nat} {legend : Legend} {token : Token}

theorem entries_eq (hl : legend.modifiers.length ≤ wordBits) (lineLengths : List Nat)
    (token : Token) :
    (token.entries lineLengths legend).outcome = .ok (token.highlight lineLengths legend)
      ∧ ∀ start before,
        Event.misplaced start before ∉ (token.entries lineLengths legend).events := by
  unfold entries highlight
  cases token.kind.classification? with
  | none => exact ⟨rfl, by simp⟩
  | some c =>
      by_cases hc : legend.Lists c
      · have he := (Legend.encode_eq_ok_iff hl).mpr ⟨hc, rfl⟩
        simp only [he, if_pos hc]
        exact ⟨rfl, by simp⟩
      · cases he : legend.encode c with
        | ok tags => exact absurd ((Legend.encode_eq_ok_iff hl).mp he).1 hc
        | error fault =>
            cases fault with
            | unknownCategory k => simp [he, hc]
            | unknownModifier m => simp [he, hc]
            | unrepresentable m => exact absurd he (Legend.encode_ne_unrepresentable hl c m)

theorem mem_highlight_iff {entry : Entry} :
    entry ∈ token.highlight lineLengths legend
      ↔ ∃ c, token.kind.classification? = some c ∧ legend.Lists c
        ∧ entry.category = legend.categories.idxOf c.category
        ∧ entry.modifiers = legend.bits c.modifiers
        ∧ ⟨entry.start, entry.length⟩
          ∈ token.segments (token.kind.excludesParticle c) lineLengths := by
  unfold highlight
  cases token.kind.classification? with
  | none => simp
  | some c =>
      by_cases hc : legend.Lists c
      · simp only [hc, if_true, List.mem_map, Option.some.injEq, exists_eq_left', true_and]
        constructor
        · rintro ⟨segment, hsegment, rfl⟩
          exact ⟨rfl, rfl, hsegment⟩
        · rintro ⟨hcategory, hmodifiers, hsegment⟩
          refine ⟨_, hsegment, ?_⟩
          rw [← hcategory, ← hmodifiers]
      · simp [hc]

/-- The highlight of a token starts inside of it, on each of its lines. -/
theorem highlight_start_inside (hspan : token.start ≤ token.stop) {entry : Entry}
    (h : entry ∈ token.highlight lineLengths legend) :
    token.start ≤ entry.start ∧ entry.start ≤ token.stop
      ∧ entry.start.column ≤ token.start.column := by
  obtain ⟨c, _, _, _, _, hsegment⟩ := mem_highlight_iff.mp h
  obtain ⟨⟨hfirst, hlast⟩, hon⟩ := mem_segments_iff.mp hsegment
  have hstart : entry.start = _ := congrArg Segment.start hon
  rw [hstart]
  exact ⟨start_le_segmentOn hfirst, segmentOn_start_le hspan hlast, segmentOn_column_le⟩

/-- The highlight of a token lies inside of it. -/
theorem highlight_inside (hspan : token.start ≤ token.stop)
    (hcontent : token.contentStop ≤ token.stop.column) {entry : Entry}
    (h : entry ∈ token.highlight lineLengths legend) :
    token.start ≤ entry.start ∧ entry.stop ≤ token.stop
      ∧ entry.start.column ≤ token.start.column := by
  obtain ⟨c, _, _, _, _, hsegment⟩ := mem_highlight_iff.mp h
  obtain ⟨⟨_, hlast⟩, hon⟩ := mem_segments_iff.mp hsegment
  obtain ⟨hstart, _, hcolumn⟩ := highlight_start_inside hspan h
  have hstop : entry.stop = _ := congrArg Segment.stop hon
  refine ⟨hstart, ?_, hcolumn⟩
  rw [hstop]
  exact segmentOn_stop_le hspan hcontent hlast

theorem pairwise_highlight (lineLengths : List Nat) (legend : Legend) (token : Token) :
    (token.highlight lineLengths legend).Pairwise
      (fun earlier later => earlier.stop ≤ later.start) := by
  unfold highlight
  cases token.kind.classification? with
  | none => exact List.Pairwise.nil
  | some c =>
      by_cases hc : legend.Lists c
      · simp only [if_pos hc, List.pairwise_map]
        exact (pairwise_segments ..).imp Or.inl
      · simp only [if_neg hc]
        exact List.Pairwise.nil

end Token

/-! ## All tokens -/

namespace Entry

theorem lastStart_cons (previous : Position) (entry : Entry) (later : List Entry) :
    lastStart previous (entry :: later) = lastStart entry.start later := by
  unfold lastStart
  rw [List.getLast?_cons]
  cases later.getLast? <;> rfl

/-- Entries follow each other in two parts if the second part follows the end of the first. -/
theorem follow_append_iff {previous : Position} {first second : List Entry} :
    Follow previous (first ++ second)
      ↔ Follow previous first ∧ Follow (lastStart previous first) second := by
  induction first generalizing previous with
  | nil => exact (and_iff_right trivial).symm
  | cons entry first ih =>
      rw [List.cons_append, Follow, Follow, ih, lastStart_cons, and_assoc]

variable {legend : Legend} (hl : legend.modifiers.length ≤ wordBits)
include hl

theorem ofTokens_outcome (lineLengths : List Nat) (previous : Position) (tokens : List Token) :
    (ofTokens lineLengths legend previous tokens).outcome
      = .ok (tokens.flatMap (Token.highlight lineLengths legend)) := by
  induction tokens generalizing previous with
  | nil => rfl
  | cons token later ih =>
      have he := (Token.entries_eq hl lineLengths token).1
      rw [ofTokens, Logged.outcome_bind_of_ok he]
      exact (Logged.outcome_bind_of_ok rfl _).trans (Logged.outcome_bind_of_ok (ih _) _)

theorem ofTokens_cons_events (lineLengths : List Nat) (previous : Position) (token : Token)
    (later : List Token) :
    (ofTokens lineLengths legend previous (token :: later)).events
      = (token.entries lineLengths legend).events
        ++ (disorder previous (token.highlight lineLengths legend)
          ++ (ofTokens lineLengths legend
            (lastStart previous (token.highlight lineLengths legend)) later).events) := by
  have he := (Token.entries_eq hl lineLengths token).1
  have ho := ofTokens_outcome hl lineLengths
    (lastStart previous (token.highlight lineLengths legend)) later
  rw [ofTokens, Logged.events_bind_of_ok he, Logged.events_bind_of_ok rfl,
    Logged.events_bind_of_ok ho]
  simp [Logged.record]

/-- No entry is reported as misplaced if all of them follow each other. -/
theorem misplaced_notMem_ofTokens {lineLengths : List Nat} {previous : Position}
    {tokens : List Token}
    (hf : Follow previous (tokens.flatMap (Token.highlight lineLengths legend))) :
    ∀ start before,
      Event.misplaced start before ∉ (ofTokens lineLengths legend previous tokens).events := by
  induction tokens generalizing previous with
  | nil => simp [ofTokens]
  | cons token later ih =>
      rw [List.flatMap_cons, follow_append_iff] at hf
      obtain ⟨hown, hlater⟩ := hf
      intro start before hmem
      rw [ofTokens_cons_events hl, List.mem_append, List.mem_append] at hmem
      rcases hmem with hentries | hdisorder | hmore
      · exact (Token.entries_eq hl lineLengths token).2 start before hentries
      · exact misplaced_notMem_disorder_iff.mpr hown start before hdisorder
      · exact ih hlater start before hmore

end Entry

namespace Token

/-- Tokens one after the other: none goes back, each has its content inside of it, and each stops no
later than the next one starts. -/
structure Successive (tokens : List Token) : Prop where
  start_le_stop : ∀ token ∈ tokens, token.start ≤ token.stop
  contentStop_le : ∀ token ∈ tokens, token.contentStop ≤ token.stop.column
  stop_le_next : tokens.IsChain (fun token next => token.stop ≤ next.start)

instance (tokens : List Token) : Decidable (Successive tokens) :=
  decidable_of_iff ((∀ token ∈ tokens, token.start ≤ token.stop)
      ∧ (∀ token ∈ tokens, token.contentStop ≤ token.stop.column)
      ∧ tokens.IsChain (fun token next => token.stop ≤ next.start))
    ⟨fun ⟨h₁, h₂, h₃⟩ => ⟨h₁, h₂, h₃⟩, fun ⟨h₁, h₂, h₃⟩ => ⟨h₁, h₂, h₃⟩⟩

instance (token : Token) : Decidable token.FitsWords :=
  decidable_of_iff (token.start.line < wordLimit ∧ token.start.column < wordLimit
      ∧ token.stop.line < wordLimit ∧ token.stop.column < wordLimit
      ∧ token.contentStop < wordLimit ∧ ∀ column ∈ token.particleStart, column < wordLimit)
    ⟨fun ⟨h₁, h₂, h₃, h₄, h₅, h₆⟩ => ⟨h₁, h₂, h₃, h₄, h₅, h₆⟩,
      fun ⟨h₁, h₂, h₃, h₄, h₅, h₆⟩ => ⟨h₁, h₂, h₃, h₄, h₅, h₆⟩⟩

theorem successive_tokenize (text : List Char) : Successive (tokenize text) where
  start_le_stop := (inOrder_tokenize text).start_le_stop
  contentStop_le := by
    intro token h
    have hle := (wellFormed_of_mem_tokenize h).contentEnd_le_stop
    rw [Position.le_iff] at hle
    dsimp only [contentEnd] at hle
    omega
  stop_le_next := (pairwise_tokenize text).isChain

theorem Successive.inOrder {tokens : List Token} (h : Successive tokens) : InOrder tokens :=
  inOrder_of_isChain h.start_le_stop h.stop_le_next

variable {tokens : List Token}

/-- **Highlights of tokens that follow each other do not overlap.** -/
theorem pairwise_flatMap_highlight (hs : Successive tokens) (lineLengths : List Nat)
    (legend : Legend) :
    (tokens.flatMap (highlight lineLengths legend)).Pairwise
      (fun earlier later => earlier.stop ≤ later.start) := by
  rw [List.pairwise_flatMap]
  refine ⟨fun token _ => pairwise_highlight lineLengths legend token, ?_⟩
  refine hs.inOrder.stop_le_start.imp_of_mem ?_
  intro token other htoken hother hle earlier hearlier later hlater
  have hfirst := highlight_inside (hs.start_le_stop token htoken) (hs.contentStop_le token htoken)
    hearlier
  have hsecond := highlight_inside (hs.start_le_stop other hother) (hs.contentStop_le other hother)
    hlater
  exact Position.le_trans hfirst.2.1 (Position.le_trans hle hsecond.1)

/-- **Highlights of tokens in order start in order**, wherever the content of a token is said to
end. -/
theorem InOrder.inOrder_highlight (h : InOrder tokens) (lineLengths : List Nat)
    (legend : Legend) : Entry.InOrder (tokens.flatMap (highlight lineLengths legend)) := by
  unfold Entry.InOrder
  rw [List.pairwise_flatMap]
  constructor
  · intro token _
    refine (pairwise_highlight lineLengths legend token).imp ?_
    intro earlier later hle
    exact Position.le_trans earlier.start_le_stop hle
  · refine h.stop_le_start.imp_of_mem ?_
    intro token other htoken hother hle earlier hearlier later hlater
    have hfirst := highlight_start_inside (h.start_le_stop token htoken) hearlier
    have hsecond := highlight_start_inside (h.start_le_stop other hother) hlater
    exact Position.le_trans hfirst.2.1 (Position.le_trans hle hsecond.1)

theorem inOrder_flatMap_highlight (hs : Successive tokens) (lineLengths : List Nat)
    (legend : Legend) : Entry.InOrder (tokens.flatMap (highlight lineLengths legend)) :=
  hs.inOrder.inOrder_highlight lineLengths legend

/-- The highlight of tokens whose numbers are words starts in words. -/
theorem InOrder.fitsWords_highlight (h : InOrder tokens) (hw : ∀ token ∈ tokens, token.FitsWords)
    (lineLengths : List Nat) (legend : Legend) :
    ∀ entry ∈ tokens.flatMap (highlight lineLengths legend),
      entry.start.line < wordLimit ∧ entry.start.column < wordLimit := by
  intro entry hmem
  obtain ⟨token, htoken, hentry⟩ := List.mem_flatMap.mp hmem
  obtain ⟨_, hstop, hcolumn⟩ := highlight_start_inside (h.start_le_stop token htoken) hentry
  have hlimits := hw token htoken
  have hline := hlimits.stop_line
  have hcolumn' := hlimits.start_column
  rw [Position.le_iff] at hstop
  omega

end Token

theorem Buffer.build_decode_of_inOrder {tokens : List Token} (h : Token.InOrder tokens)
    (hw : ∀ token ∈ tokens, token.FitsWords) {legend : Legend}
    (hl : legend.modifiers.length ≤ wordBits) (lineLengths : List Nat) (resultId : Option String) :
    ∃ buffer, (Buffer.build tokens lineLengths legend resultId).outcome = .ok buffer
      ∧ Delta.decode buffer.data
        = .ok (tokens.flatMap (Token.highlight lineLengths legend)) := by
  have ho := Entry.ofTokens_outcome hl lineLengths .zero tokens
  have hord := h.inOrder_highlight lineLengths legend
  have hstarts := h.fitsWords_highlight hw lineLengths legend
  exact ⟨_, Logged.outcome_bind_of_ok ho _, Delta.decode_encode hord hstarts⟩

theorem Buffer.build_decode {tokens : List Token} (hs : Token.Successive tokens)
    (hw : ∀ token ∈ tokens, token.FitsWords) {legend : Legend}
    (hl : legend.modifiers.length ≤ wordBits) (lineLengths : List Nat) (resultId : Option String) :
    ∃ buffer, (Buffer.build tokens lineLengths legend resultId).outcome = .ok buffer
      ∧ Delta.decode buffer.data
        = .ok (tokens.flatMap (Token.highlight lineLengths legend)) :=
  Buffer.build_decode_of_inOrder hs.inOrder hw hl lineLengths resultId

open Token in
/--
**The buffer of tokens that follow each other decodes to their highlights.**

The numbers of a token are words. Then nothing overflows, nothing is misplaced and nothing overlaps,
whatever the table of lengths says and whichever tokens the legend leaves out. The tokens of a text
follow each other.
-/
theorem decode_build_eq_highlight :
    (∀ (tokens : List Token) (lineLengths : List Nat) (legend : Legend) (resultId : Option String),
      Successive tokens → (∀ token ∈ tokens, token.FitsWords) →
      legend.modifiers.length ≤ wordBits →
      ∃ buffer, (Buffer.build tokens lineLengths legend resultId).outcome = .ok buffer
        ∧ Delta.decode buffer.data = .ok (tokens.flatMap (highlight lineLengths legend))
        ∧ (∀ c tags, legend.encode c = .ok tags
          ↔ legend.Lists c
            ∧ tags = (legend.categories.idxOf c.category, legend.bits c.modifiers))
        ∧ (∀ start before, Event.misplaced start before
          ∉ (Buffer.build tokens lineLengths legend resultId).events)
        ∧ (tokens.flatMap (highlight lineLengths legend)).Pairwise
          (fun earlier later => earlier.stop ≤ later.start))
      ∧ ∀ text, Successive (tokenize text)
        ∧ (units text < wordLimit → ∀ token ∈ tokenize text, token.FitsWords) := by
  refine ⟨?_, ?_⟩
  · intro tokens lineLengths legend resultId hs hw hl
    obtain ⟨buffer, hbuffer, hdecode⟩ := Buffer.build_decode hs hw hl lineLengths resultId
    refine ⟨buffer, hbuffer, hdecode, ?_, ?_, ?_⟩
    · intro c tags
      exact Legend.encode_eq_ok_iff hl
    · have hord := inOrder_flatMap_highlight hs lineLengths legend
      have ho := Entry.ofTokens_outcome hl lineLengths .zero tokens
      rw [Buffer.build, Logged.events_bind_of_ok ho]
      simpa using Entry.misplaced_notMem_ofTokens hl (Entry.follow_zero_iff.mpr hord)
    · exact pairwise_flatMap_highlight hs lineLengths legend
  · intro text
    exact ⟨successive_tokenize text, fun hlen token h => fitsWords_of_mem_tokenize hlen h⟩

/-- A full stop and a call that the legend cannot express are left out, and a string over three
lines, of which the table knows one, keeps a segment on each of them. -/
theorem decode_build_eq_highlight_left_out :
    ∃ buffer, (Buffer.build
        [.plain .number "1" ⟨0, 0⟩ ⟨0, 1⟩, .plain .sentenceEnd "。" ⟨0, 1⟩ ⟨0, 2⟩,
          (Token.plain .string "「あ\n\nい」と" ⟨0, 2⟩ ⟨2, 3⟩).withParticle "と" 2,
          .plain (.builtin .function) "表示" ⟨2, 3⟩ ⟨2, 5⟩, .plain .word "A" ⟨2, 5⟩ ⟨2, 6⟩]
        [4] ⟨Category.all, [.declaration]⟩ none).outcome = .ok buffer
      ∧ Delta.decode buffer.data
        = .ok [⟨⟨0, 0⟩, 1, 4, 0⟩, ⟨⟨0, 2⟩, 2, 3, 0⟩, ⟨⟨1, 0⟩, 0, 3, 0⟩, ⟨⟨2, 0⟩, 2, 3, 0⟩,
          ⟨⟨2, 5⟩, 1, 1, 0⟩] := by
  obtain ⟨buffer, hbuffer, hdecode, _⟩ := decode_build_eq_highlight.1
    [.plain .number "1" ⟨0, 0⟩ ⟨0, 1⟩, .plain .sentenceEnd "。" ⟨0, 1⟩ ⟨0, 2⟩,
      (Token.plain .string "「あ\n\nい」と" ⟨0, 2⟩ ⟨2, 3⟩).withParticle "と" 2,
      .plain (.builtin .function) "表示" ⟨2, 3⟩ ⟨2, 5⟩, .plain .word "A" ⟨2, 5⟩ ⟨2, 6⟩]
    [4] ⟨Category.all, [.declaration]⟩ none (by decide) (by decide) (by decide)
  exact ⟨buffer, hbuffer, hdecode⟩

end Nadesiko
