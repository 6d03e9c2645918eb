import Mathlib
import Nadesiko.Highlight.Buffer

/-!
# Encoding and decoding undo each other

A relative entry and the position before it give the next position, and two positions give the
relative entry between them. These two undo each other as long as the second position is not before
the first: `startFrom_relativeTo` and `of_startFrom`. The rest is induction over the list, because
encoding and decoding pass on the same position from one entry to the next.

Out of order nothing can be undone. Decoding only ever adds, so its entries are in order whatever it
is given, and an entry that stands before its predecessor never comes back.
-/

namespace Nadesiko

/-- A computation that may fail has a value exactly if its parts have values. -/
theorem bind_eq_ok_iff {ε α β : Type} {x : Except ε α} {f : α → Except ε β} {b : β} :
    x >>= f = .ok b ↔ ∃ a, x = .ok a ∧ f a = .ok b := by
  cases x with
  | error fault => simp [bind, Except.bind]
  | ok a => simp [bind, Except.bind]

theorem pure_eq_ok_iff {ε α : Type} {a b : α} : (pure a : Except ε α) = .ok b ↔ a = b := by
  simp [pure, Except.pure]

theorem Position.zero_le (p : Position) : Position.zero ≤ p := by
  rw [Position.le_iff, Position.zero]
  dsimp only
  omega

namespace Entry

/-- The numbers of an entry are words. -/
structure FitsWords (entry : Entry) : Prop where
  line : entry.start.line < wordLimit
  column : entry.start.column < wordLimit
  length : entry.length < wordLimit
  category : entry.category < wordLimit
  modifiers : entry.modifiers < wordLimit

instance (entry : Entry) : Decidable entry.FitsWords :=
  decidable_of_iff (entry.start.line < wordLimit ∧ entry.start.column < wordLimit
      ∧ entry.length < wordLimit ∧ entry.category < wordLimit ∧ entry.modifiers < wordLimit)
    ⟨fun ⟨h₁, h₂, h₃, h₄, h₅⟩ => ⟨h₁, h₂, h₃, h₄, h₅⟩,
      fun ⟨h₁, h₂, h₃, h₄, h₅⟩ => ⟨h₁, h₂, h₃, h₄, h₅⟩⟩

/-- Entries that start in the order of the text. -/
def InOrder (entries : List Entry) : Prop := entries.Pairwise (fun a b => a.start ≤ b.start)

instance (entries : List Entry) : Decidable (InOrder entries) :=
  inferInstanceAs (Decidable (entries.Pairwise _))

/-- Entries of which the first starts at or after a position, and each other one at or after its
predecessor. -/
def Follow (previous : Position) : List Entry → Prop
  | [] => True
  | entry :: later => previous ≤ entry.start ∧ Follow entry.start later

/-- Following each other is being in order, behind the first position. -/
theorem follow_iff {previous : Position} {entries : List Entry} :
    Follow previous entries ↔ (∀ entry ∈ entries, previous ≤ entry.start) ∧ InOrder entries := by
  induction entries generalizing previous with
  | nil => simp [Follow, InOrder]
  | cons entry later ih =>
      rw [Follow, ih, List.forall_mem_cons]
      unfold InOrder
      rw [List.pairwise_cons]
      constructor
      · rintro ⟨hle, hlater, hpair⟩
        exact ⟨⟨hle, fun other hmem => Position.le_trans hle (hlater other hmem)⟩, hlater, hpair⟩
      · rintro ⟨⟨hle, _⟩, hlater, hpair⟩
        exact ⟨hle, hlater, hpair⟩

theorem follow_zero_iff {entries : List Entry} : Follow .zero entries ↔ InOrder entries := by
  rw [follow_iff]
  exact and_iff_right (fun entry _ => Position.zero_le entry.start)

/-- An entry is misplaced exactly if it does not follow. -/
theorem misplaced_eq_nil_iff {previous : Position} {entries : List Entry} :
    misplaced previous entries = [] ↔ Follow previous entries := by
  induction entries generalizing previous with
  | nil => simp [misplaced, Follow]
  | cons entry later ih =>
      rw [misplaced, Follow, ← ih, ← Position.not_lt]
      by_cases hlt : entry.start < previous
      · rw [if_pos hlt]
        simp [hlt]
      · rw [if_neg hlt]
        simp [hlt]

/-- Nothing is reported exactly if the entries follow each other. -/
theorem misplaced_notMem_disorder_iff {previous : Position} {entries : List Entry} :
    (∀ start before, Event.misplaced start before ∉ disorder previous entries)
      ↔ Follow previous entries := by
  rw [← misplaced_eq_nil_iff, List.eq_nil_iff_forall_not_mem, disorder]
  constructor
  · rintro h ⟨start, before⟩ hmem
    exact h start before (List.mem_map_of_mem hmem)
  · intro h start before hmem
    obtain ⟨⟨start', before'⟩, hpair, _⟩ := List.mem_map.mp hmem
    exact h _ hpair

end Entry

namespace Delta

/-- The numbers of a relative entry are words. -/
structure FitsWords (delta : Delta) : Prop where
  lines : delta.lines < wordLimit
  column : delta.column < wordLimit
  length : delta.length < wordLimit
  category : delta.category < wordLimit
  modifiers : delta.modifiers < wordLimit

/-! ## One entry -/

/-- Where a relative entry leads: along the line, or to a column of a later line. -/
theorem startFrom_eq_ok_iff {delta : Delta} {previous start : Position} :
    delta.startFrom previous = .ok start
      ↔ (start.line = previous.line + delta.lines ∧ start.line < wordLimit)
        ∧ ((delta.lines = 0 ∧ start.column = previous.column + delta.column
              ∧ start.column < wordLimit)
            ∨ (delta.lines ≠ 0 ∧ start.column = delta.column)) := by
  obtain ⟨line, column⟩ := start
  by_cases hzero : delta.lines = 0
  · simp only [startFrom, if_pos hzero, bind_eq_ok_iff, addWords_eq_ok, pure_eq_ok_iff,
      Position.mk.injEq]
    constructor
    · rintro ⟨_, ⟨rfl, hl⟩, _, ⟨rfl, hc⟩, rfl, rfl⟩
      exact ⟨⟨rfl, hl⟩, Or.inl ⟨hzero, rfl, hc⟩⟩
    · rintro ⟨⟨rfl, hl⟩, ⟨_, rfl, hc⟩ | ⟨hne, _⟩⟩
      · exact ⟨_, ⟨rfl, hl⟩, _, ⟨rfl, hc⟩, rfl, rfl⟩
      · exact absurd hzero hne
  · simp only [startFrom, if_neg hzero, bind_eq_ok_iff, addWords_eq_ok, pure_eq_ok_iff,
      Except.ok.injEq, Position.mk.injEq]
    constructor
    · rintro ⟨_, ⟨rfl, hl⟩, _, rfl, rfl, rfl⟩
      exact ⟨⟨rfl, hl⟩, Or.inr ⟨hzero, rfl⟩⟩
    · rintro ⟨⟨rfl, hl⟩, ⟨h, _⟩ | ⟨_, rfl⟩⟩
      · exact absurd h hzero
      · exact ⟨_, ⟨rfl, hl⟩, _, rfl, rfl, rfl⟩

/-- An entry that does not go back is found again. -/
theorem startFrom_relativeTo {entry : Entry} {previous : Position} (hle : previous ≤ entry.start)
    (hline : entry.start.line < wordLimit) (hcolumn : entry.start.column < wordLimit) :
    (entry.relativeTo previous).startFrom previous = .ok entry.start := by
  rw [Position.le_iff] at hle
  rw [startFrom_eq_ok_iff]
  dsimp only [Entry.relativeTo]
  split <;> omega

/-- What a relative entry leads to does not go back, and gives the relative entry again. -/
theorem of_startFrom {delta : Delta} {previous start : Position}
    (h : delta.startFrom previous = .ok start) :
    previous ≤ start
      ∧ Entry.relativeTo ⟨start, delta.length, delta.category, delta.modifiers⟩ previous
        = delta := by
  obtain ⟨lines, column, length, category, modifiers⟩ := delta
  rw [startFrom_eq_ok_iff] at h
  dsimp only at h
  constructor
  · rw [Position.le_iff]
    omega
  · simp only [Entry.relativeTo, Delta.mk.injEq, and_true]
    split <;> omega

/-! ## All entries -/

theorem decodeFrom_cons_eq_ok_iff {delta : Delta} {deltas : List Delta} {previous : Position}
    {entries : List Entry} :
    decodeFrom previous (delta :: deltas) = .ok entries
      ↔ ∃ start later, delta.startFrom previous = .ok start ∧ decodeFrom start deltas = .ok later
        ∧ entries = ⟨start, delta.length, delta.category, delta.modifiers⟩ :: later := by
  simp only [decodeFrom, bind_eq_ok_iff, pure_eq_ok_iff]
  constructor
  · rintro ⟨start, hstart, later, hlater, rfl⟩
    exact ⟨start, later, hstart, hlater, rfl⟩
  · rintro ⟨start, later, hstart, hlater, rfl⟩
    exact ⟨start, hstart, later, hlater, rfl⟩

/-- Entries that follow each other are found again. -/
theorem decodeFrom_encodeFrom {previous : Position} {entries : List Entry}
    (hf : Entry.Follow previous entries)
    (hw : ∀ entry ∈ entries, entry.start.line < wordLimit ∧ entry.start.column < wordLimit) :
    decodeFrom previous (Entry.encodeFrom previous entries) = .ok entries := by
  induction entries generalizing previous with
  | nil => rfl
  | cons entry later ih =>
      obtain ⟨hle, hlater⟩ := hf
      obtain ⟨⟨hline, hcolumn⟩, hwords⟩ := List.forall_mem_cons.mp hw
      rw [Entry.encodeFrom, decodeFrom_cons_eq_ok_iff]
      exact ⟨entry.start, later, startFrom_relativeTo hle hline hcolumn, ih hlater hwords, rfl⟩

/-- Decoding yields entries that follow each other and give what was decoded again. -/
theorem of_decodeFrom {previous : Position} {deltas : List Delta} {entries : List Entry}
    (h : decodeFrom previous deltas = .ok entries) :
    Entry.Follow previous entries ∧ Entry.encodeFrom previous entries = deltas := by
  induction deltas generalizing previous entries with
  | nil =>
      cases h
      exact ⟨trivial, rfl⟩
  | cons delta deltas ih =>
      obtain ⟨start, later, hstart, hlater, rfl⟩ := decodeFrom_cons_eq_ok_iff.mp h
      obtain ⟨hle, hdelta⟩ := of_startFrom hstart
      obtain ⟨hfollow, hdeltas⟩ := ih hlater
      refine ⟨⟨hle, hfollow⟩, ?_⟩
      rw [Entry.encodeFrom, hdelta, hdeltas]

/-- **Entries in order come back from their encoding.** -/
theorem decode_encode {entries : List Entry} (hord : Entry.InOrder entries)
    (hw : ∀ entry ∈ entries, entry.start.line < wordLimit ∧ entry.start.column < wordLimit) :
    decode (Entry.encode entries) = .ok entries :=
  decodeFrom_encodeFrom (Entry.follow_zero_iff.mpr hord) hw

/-- **What can be decoded is the encoding of entries in order.** -/
theorem of_decode {deltas : List Delta} {entries : List Entry} (h : decode deltas = .ok entries) :
    Entry.InOrder entries ∧ Entry.encode entries = deltas := by
  obtain ⟨hfollow, hdeltas⟩ := of_decodeFrom h
  exact ⟨Entry.follow_zero_iff.mp hfollow, hdeltas⟩

/-! ## Words stay words -/

theorem fitsWords_relativeTo {entry : Entry} (hw : entry.FitsWords) (previous : Position) :
    (entry.relativeTo previous).FitsWords where
  lines := Nat.lt_of_le_of_lt (Nat.sub_le _ _) hw.line
  column := by
    have := hw.column
    dsimp only [Entry.relativeTo]
    split <;> omega
  length := hw.length
  category := hw.category
  modifiers := hw.modifiers

theorem fitsWords_encodeFrom {previous : Position} {entries : List Entry}
    (hw : ∀ entry ∈ entries, entry.FitsWords) :
    ∀ delta ∈ Entry.encodeFrom previous entries, delta.FitsWords := by
  induction entries generalizing previous with
  | nil => simp [Entry.encodeFrom]
  | cons entry later ih =>
      obtain ⟨hentry, hlater⟩ := List.forall_mem_cons.mp hw
      rw [Entry.encodeFrom, List.forall_mem_cons]
      exact ⟨fitsWords_relativeTo hentry previous, ih hlater⟩

theorem fitsWords_of_decodeFrom {previous : Position} {deltas : List Delta} {entries : List Entry}
    (h : decodeFrom previous deltas = .ok entries) (hw : ∀ delta ∈ deltas, delta.FitsWords) :
    ∀ entry ∈ entries, entry.FitsWords := by
  induction deltas generalizing previous entries with
  | nil =>
      cases h
      simp
  | cons delta deltas ih =>
      obtain ⟨start, later, hstart, hlater, rfl⟩ := decodeFrom_cons_eq_ok_iff.mp h
      obtain ⟨hdelta, hdeltas⟩ := List.forall_mem_cons.mp hw
      rw [List.forall_mem_cons]
      refine ⟨?_, ih hlater hdeltas⟩
      obtain ⟨⟨_, hline⟩, hcolumn⟩ := startFrom_eq_ok_iff.mp hstart
      have := hdelta.column
      exact ⟨hline, by dsimp only; omega, hdelta.length, hdelta.category, hdelta.modifiers⟩

end Delta

open Entry Delta

/--
**Encoding and decoding are inverse to each other on entries in order.**

Entries that are words come back from their encoding exactly if they are in order, and exactly then
nothing is reported as misplaced. What decodes at all decodes to entries in order, and encoding
these gives it back. So the encodings of entries in order are all that can be decoded.
-/
theorem decode_encode_inverse :
    (∀ (resultId : Option String) (entries : List Entry), (∀ entry ∈ entries, entry.FitsWords) →
      ∃ buffer, (Buffer.ofEntries resultId entries).outcome = .ok buffer
        ∧ (decode buffer.data = .ok entries ↔ InOrder entries)
        ∧ (InOrder entries ↔ ∀ start before,
          Event.misplaced start before ∉ (Buffer.ofEntries resultId entries).events))
      ∧ (∀ (deltas : List Delta) (entries : List Entry), decode deltas = .ok entries →
        InOrder entries
          ∧ ∀ resultId, (Buffer.ofEntries resultId entries).outcome = .ok ⟨resultId, deltas⟩)
      ∧ ∀ deltas : List Delta,
        ((∀ delta ∈ deltas, delta.FitsWords) ∧ ∃ entries, decode deltas = .ok entries)
          ↔ ∃ entries, (∀ entry ∈ entries, entry.FitsWords) ∧ InOrder entries
            ∧ encode entries = deltas := by
  refine ⟨?_, ?_, ?_⟩
  · intro resultId entries hw
    have hstarts : ∀ entry ∈ entries,
        entry.start.line < wordLimit ∧ entry.start.column < wordLimit :=
      fun entry hmem => ⟨(hw entry hmem).line, (hw entry hmem).column⟩
    refine ⟨⟨resultId, encode entries⟩, rfl, ⟨?_, ?_⟩, ?_⟩
    · intro h
      exact (of_decode h).1
    · intro hord
      exact decode_encode hord hstarts
    · rw [← follow_zero_iff]
      exact misplaced_notMem_disorder_iff.symm
  · intro deltas entries h
    obtain ⟨hord, rfl⟩ := of_decode h
    exact ⟨hord, fun resultId => rfl⟩
  · intro deltas
    constructor
    · rintro ⟨hw, entries, h⟩
      exact ⟨entries, fitsWords_of_decodeFrom h hw, of_decode h⟩
    · rintro ⟨entries, hw, hord, rfl⟩
      refine ⟨fitsWords_encodeFrom hw, entries, decode_encode hord ?_⟩
      exact fun entry hmem => ⟨(hw entry hmem).line, (hw entry hmem).column⟩

/-- The largest words come back, on the same line and behind the largest step down. A column that
goes back by one does not. -/
theorem decode_encode_inverse_limits :
    (∃ buffer, (Buffer.ofEntries none
          [⟨⟨0, 4294967294⟩, 1, 4, 0⟩, ⟨⟨0, 4294967295⟩, 0, 1, 5⟩,
            ⟨⟨4294967295, 4294967295⟩, 4294967295, 3, 4294967295⟩]).outcome = .ok buffer
        ∧ decode buffer.data
          = .ok [⟨⟨0, 4294967294⟩, 1, 4, 0⟩, ⟨⟨0, 4294967295⟩, 0, 1, 5⟩,
            ⟨⟨4294967295, 4294967295⟩, 4294967295, 3, 4294967295⟩])
      ∧ ∃ buffer, (Buffer.ofEntries none [⟨⟨1, 3⟩, 1, 4, 0⟩, ⟨⟨1, 2⟩, 1, 4, 0⟩]).outcome
          = .ok buffer
        ∧ decode buffer.data ≠ .ok [⟨⟨1, 3⟩, 1, 4, 0⟩, ⟨⟨1, 2⟩, 1, 4, 0⟩] := by
  constructor
  · obtain ⟨buffer, hbuffer, hdecode, _⟩ := decode_encode_inverse.1 none
      [⟨⟨0, 4294967294⟩, 1, 4, 0⟩, ⟨⟨0, 4294967295⟩, 0, 1, 5⟩,
        ⟨⟨4294967295, 4294967295⟩, 4294967295, 3, 4294967295⟩] (by decide)
    exact ⟨buffer, hbuffer, hdecode.mpr (by decide)⟩
  · obtain ⟨buffer, hbuffer, hdecode, _⟩ := decode_encode_inverse.1 none
      [⟨⟨1, 3⟩, 1, 4, 0⟩, ⟨⟨1, 2⟩, 1, 4, 0⟩] (by decide)
    exact ⟨buffer, hbuffer, fun h => absurd (hdecode.mp h) (by decide)⟩

end Nadesiko
