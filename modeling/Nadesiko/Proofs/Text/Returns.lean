import Mathlib
import Nadesiko.Proofs.Text.Lines
import Nadesiko.Proofs.Text.Movement

/-!
# Carriage returns before line feeds

A line may end with a line feed alone or with a carriage return before it. Where all carriage
returns of a text stand before line feeds, taking them away changes nothing that is counted: not the
lengths of the lines, and not where a cursor gets to. A cursor that passes such a carriage return
does not move, so a cursor in the text without it simply waits. This is `Aligned`, and every number
of steps on the one side has its number of steps on the other.
-/

namespace Nadesiko.Text

/-- A text with a carriage return before every line feed. -/
def withReturns (text : List Char) : List Char :=
  text.flatMap (fun c => if c = '\n' then ['\r', '\n'] else [c])

/-- A text without its carriage returns. -/
def withoutReturns (text : List Char) : List Char := text.filter (· != '\r')

/-- Every carriage return of a text stands directly before a line feed. -/
def Paired : List Char → Prop
  | [] => True
  | c :: rest => (c = '\r' → rest.head? = some '\n') ∧ Paired rest

theorem withoutReturns_cons_return (rest : List Char) :
    withoutReturns ('\r' :: rest) = withoutReturns rest := rfl

theorem withoutReturns_cons {c : Char} (h : c ≠ '\r') (rest : List Char) :
    withoutReturns (c :: rest) = c :: withoutReturns rest :=
  List.filter_cons_of_pos (bne_iff_ne.mpr h)

theorem withoutReturns_append (xs ys : List Char) :
    withoutReturns (xs ++ ys) = withoutReturns xs ++ withoutReturns ys := List.filter_append ..

theorem withoutReturns_eq_self {text : List Char} (h : '\r' ∉ text) :
    withoutReturns text = text := by
  refine List.filter_eq_self.mpr ?_
  intro c hc
  exact bne_iff_ne.mpr (fun heq => h (heq ▸ hc))

theorem return_notMem {text : List Char} (h : ∀ c ∈ text, Cursor.breaksLine c = false) :
    '\r' ∉ text := fun hin => absurd (h _ hin) (by decide)

/-- A cut through a text is a cut through the text without its carriage returns. -/
theorem withoutReturns_eq_take_append_drop (text : List Char) (n : Nat) :
    withoutReturns text = withoutReturns (text.take n) ++ withoutReturns (text.drop n) := by
  rw [← withoutReturns_append, List.take_append_drop]

theorem take_withoutReturns (text : List Char) (n : Nat) :
    (withoutReturns text).take (withoutReturns (text.take n)).length
      = withoutReturns (text.take n) := by
  rw [withoutReturns_eq_take_append_drop text n, List.take_left]

theorem drop_withoutReturns (text : List Char) (n : Nat) :
    (withoutReturns text).drop (withoutReturns (text.take n)).length
      = withoutReturns (text.drop n) := by
  rw [withoutReturns_eq_take_append_drop text n, List.drop_left]

theorem Paired.drop {text : List Char} (h : Paired text) (n : Nat) : Paired (text.drop n) := by
  induction n generalizing text with
  | zero => exact h
  | succ n ih =>
      cases text with
      | nil => exact h
      | cons c rest => exact ih h.2

theorem withReturns_cons_newline (rest : List Char) :
    withReturns ('\n' :: rest) = '\r' :: '\n' :: withReturns rest := rfl

theorem withReturns_cons {c : Char} (h : c ≠ '\n') (rest : List Char) :
    withReturns (c :: rest) = c :: withReturns rest := by
  unfold withReturns
  rw [List.flatMap_cons, if_neg h]
  rfl

theorem paired_withReturns {text : List Char} (h : '\r' ∉ text) : Paired (withReturns text) := by
  induction text with
  | nil => trivial
  | cons c rest ih =>
      rw [List.mem_cons, not_or] at h
      by_cases hc : c = '\n'
      · rw [hc, withReturns_cons_newline]
        exact ⟨fun _ => rfl, fun heq => absurd heq (by decide), ih h.2⟩
      · rw [withReturns_cons hc]
        exact ⟨fun heq => absurd heq.symm h.1, ih h.2⟩

theorem withoutReturns_withReturns {text : List Char} (h : '\r' ∉ text) :
    withoutReturns (withReturns text) = text := by
  induction text with
  | nil => rfl
  | cons c rest ih =>
      rw [List.mem_cons, not_or] at h
      by_cases hc : c = '\n'
      · rw [hc, withReturns_cons_newline, withoutReturns_cons_return,
          withoutReturns_cons (by decide), ih h.2]
      · rw [withReturns_cons hc, withoutReturns_cons (Ne.symm h.1), ih h.2]

/-! ## The lengths of lines -/

theorem lines_withoutReturns (text : List Char) :
    lines (withoutReturns text) = (lines text).map withoutReturns := by
  induction text with
  | nil => rfl
  | cons c rest ih =>
      by_cases hbreak : c = '\n'
      · rw [hbreak, withoutReturns_cons (by decide), lines, lines, ih]
        rfl
      · rw [lines_cons_of_ne hbreak]
        by_cases hc : c = '\r'
        · rw [hc, withoutReturns_cons_return, ih]
          cases lines rest with
          | nil => rfl
          | cons piece pieces => rfl
        · rw [withoutReturns_cons hc, lines_cons_of_ne hbreak, ih]
          cases lines rest with
          | nil => rfl
          | cons piece pieces =>
              simp only [List.modifyHead_cons, List.map_cons, withoutReturns_cons hc]

/-- On a line, a carriage return can only stand at the end. -/
theorem return_notMem_dropLast {text : List Char} (h : Paired text) :
    ∀ piece ∈ lines text, '\r' ∉ piece.dropLast := by
  induction text with
  | nil => simp [lines]
  | cons c rest ih =>
      obtain ⟨hnext, hrest⟩ := h
      by_cases hbreak : c = '\n'
      · rw [hbreak, lines, List.forall_mem_cons]
        exact ⟨by simp, ih hrest⟩
      · have hfirst := head?_lines rest
        rw [lines_cons_of_ne hbreak]
        cases hl : lines rest with
        | nil => rw [hl] at hfirst; cases hfirst
        | cons piece pieces =>
            have hall := ih hrest
            rw [hl, List.forall_mem_cons] at hall
            rw [hl, List.getElem?_cons_zero, Option.some.injEq] at hfirst
            rw [List.modifyHead_cons, List.forall_mem_cons]
            refine ⟨?_, hall.2⟩
            cases piece with
            | nil => simp
            | cons d piece =>
                rw [List.dropLast_cons_cons, List.mem_cons, not_or]
                refine ⟨?_, hall.1⟩
                -- behind a carriage return the line would be over
                rintro rfl
                obtain ⟨later, hlater⟩ := List.head?_eq_some_iff.mp (hnext rfl)
                rw [hlater] at hfirst
                cases hfirst

theorem lineContent_eq_withoutReturns {line : List Char} (h : '\r' ∉ line.dropLast) :
    lineContent line = withoutReturns line := by
  rcases List.eq_nil_or_concat line with rfl | ⟨front, c, rfl⟩
  · rfl
  · rw [List.concat_eq_append, List.dropLast_concat] at h
    rw [List.concat_eq_append, withoutReturns_append, withoutReturns_eq_self h, lineContent,
      List.getLast?_concat, List.dropLast_concat]
    by_cases hc : c = '\r'
    · rw [hc, if_pos rfl, withoutReturns_cons_return]
      exact (List.append_nil front).symm
    · rw [if_neg (fun heq => hc (Option.some.inj heq)), withoutReturns_cons hc]
      rfl

/-- **Carriage returns before line feeds do not count into the lengths of lines.** -/
theorem lineLengths_withoutReturns {text : List Char} (h : Paired text) :
    lineLengths (withoutReturns text) = lineLengths text := by
  unfold lineLengths
  rw [lines_withoutReturns, List.map_map]
  refine List.map_congr_left ?_
  intro piece hmem
  have hpiece := return_notMem_dropLast h piece hmem
  have hnone : '\r' ∉ withoutReturns piece := by simp [withoutReturns]
  simp only [Function.comp_apply]
  rw [lineContent_eq_withoutReturns hpiece, lineContent_eq_withoutReturns
    (fun hmem => hnone (List.mem_of_mem_dropLast hmem)), withoutReturns_eq_self hnone]

/-! ## Cursors -/

namespace Cursor

/-- Two cursors at the same place of a text and of the text without its carriage returns. -/
structure Aligned (cur plain : Cursor) : Prop where
  rest_eq : plain.rest = withoutReturns cur.rest
  paired : Paired cur.rest
  position_eq : plain.position = cur.position
  atLineStart_eq : plain.atLineStart = cur.atLineStart

theorem aligned_start {text : List Char} (h : Paired text) :
    Aligned (start text) (start (withoutReturns text)) := ⟨rfl, h, rfl, rfl⟩

variable {cur plain : Cursor} {c : Char} {rest : List Char}

/-- Over a carriage return the other cursor waits. -/
theorem Aligned.advance_return (h : Aligned cur plain) (hr : cur.rest = '\r' :: rest) :
    Aligned cur.advance plain := by
  have hp := h.paired
  have hplain := h.rest_eq
  rw [hr] at hp hplain
  rw [advance_of_cons hr, if_neg (by decide), if_pos ⟨rfl, hp.1 rfl⟩]
  exact ⟨hplain, hp.2, h.position_eq, h.atLineStart_eq⟩

theorem Aligned.rest_of_cons (h : Aligned cur plain) (hr : cur.rest = c :: rest) (hc : c ≠ '\r') :
    plain.rest = c :: withoutReturns rest := by
  rw [h.rest_eq, hr, withoutReturns_cons hc]

/-- Over every other character both cursors step. -/
theorem Aligned.advance (h : Aligned cur plain) (hr : cur.rest = c :: rest) (hc : c ≠ '\r') :
    Aligned cur.advance plain.advance := by
  have hp := h.paired
  rw [hr] at hp
  rw [advance_of_cons hr, advance_of_cons (h.rest_of_cons hr hc), h.position_eq, h.atLineStart_eq]
  split
  · exact ⟨rfl, hp.2, rfl, rfl⟩
  · rw [if_neg (fun hd => hc hd.1), if_neg (fun hd => hc hd.1)]
    exact ⟨rfl, hp.2, rfl, rfl⟩

/-- **Cursors stay aligned when each passes its part of the same stretch.** -/
theorem Aligned.advanceBy (h : Aligned cur plain) (n : Nat) :
    Aligned (cur.advanceBy n) (plain.advanceBy (withoutReturns (cur.rest.take n)).length) := by
  induction n generalizing cur plain with
  | zero => exact h
  | succ n ih =>
      cases hr : cur.rest with
      | nil =>
          have hmore := ih h
          rw [hr, List.take_nil] at hmore
          rw [Cursor.advanceBy, advance_of_nil hr, List.take_nil]
          exact hmore
      | cons c rest =>
          have hrest : cur.advance.rest = rest := by rw [rest_advance, hr, List.tail_cons]
          rw [Cursor.advanceBy, List.take_succ_cons]
          by_cases hc : c = '\r'
          · have hmore := ih (h.advance_return (hc ▸ hr))
            rw [hrest] at hmore
            rw [hc, withoutReturns_cons_return]
            exact hmore
          · have hmore := ih (h.advance hr hc)
            rw [hrest] at hmore
            rw [withoutReturns_cons hc]
            exact hmore

end Cursor

end Nadesiko.Text
