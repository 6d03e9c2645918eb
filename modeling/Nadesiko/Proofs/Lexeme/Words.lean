import Mathlib
import Nadesiko.Proofs.Lexeme.Grammar

/-!
# Where words are cut

A word is looked for in a run of word characters, and what stands behind the run plays no part. Two
things about the search are used for keywords. Over characters that are not hiragana it goes on
without stopping, because particles and the keywords that may follow a word both start with
hiragana. And where such a keyword comes next, the word ends in any case; it is only asked whether
the keyword itself starts with a particle.
-/

namespace Nadesiko.Lexeme

open Text Lexicon

/-! ## Runs of word characters -/

theorem takeWhile_append_of_noneNext {p : Char → Bool} {run later : List Char}
    (hrun : ∀ c ∈ run, p c = true) (hlater : NoneNext p later) :
    (run ++ later).takeWhile p = run := by
  have hstop : later.takeWhile p = [] := by
    cases later with
    | nil => rfl
    | cons c later => exact List.takeWhile_cons_of_neg (by simp [hlater c rfl])
  rw [List.takeWhile_append_of_pos hrun, hstop, List.append_nil]

section run

variable {run later : List Char} (hrun : ∀ c ∈ run, isWordChar c = true)
  (hlater : NoneNext isWordChar later)

include hrun hlater

/-- Behind a run of word characters nothing matters for the word, -/
theorem wordEnd_append (last : Char) (before : List Char) :
    wordEnd last before (run ++ later) = wordEnd last before run := by
  rw [← wordEnd_takeWhile (fun _ h => h), takeWhile_append_of_noneNext hrun hlater]

/-- nor for the particle. -/
theorem particle?_append : particle? (run ++ later) = particle? run := by
  rw [← particle?_takeWhile (fun _ h => h), takeWhile_append_of_noneNext hrun hlater]

end run

/-- Whether a word that stands alone is read as a whole. -/
def readsWhole : List Char → Bool
  | [] => false
  | c :: rest => wordEnd c [] rest == (rest.length, none)

/-- A word with nothing behind it that could belong to it is read as if it stood alone. -/
theorem wordEnd_eq_iff_readsWhole {c : Char} {run later : List Char}
    (hrun : ∀ d ∈ run, isWordChar d = true) (hlater : NoneNext isWordChar later) :
    wordEnd c [] (run ++ later) = (run.length, none) ↔ readsWhole (c :: run) = true := by
  rw [wordEnd_append hrun hlater, readsWhole, beq_iff_eq]

/-- What is read where a word starts. -/
def wordReading (c : Char) (rest : List Char) : Reading :=
  ⟨.word, (wordEnd c [] rest).1, (wordEnd c [] rest).2⟩

theorem read_of_startsWord {c : Char} (hc : startsWord c = true) (atLineStart : Bool)
    (rest : List Char) : read atLineStart c rest = wordReading c rest := by
  have hbreak : (c == '\n') = false := by
    rw [beq_eq_false_iff_ne]
    intro h
    rw [h] at hc
    exact absurd hc (by decide +kernel)
  have hblank : isBlank c = false := by
    rw [← Bool.not_eq_true]
    intro h
    rw [startsWord_eq_false_of_isBlank h] at hc
    cases hc
  simp only [read, wordReading, hbreak, hblank, hc, Bool.false_eq_true, if_false, if_true]

/-! ## Words without hiragana -/

theorem isPrefixOf_cons_of_not_hiragana {mark : List Char}
    (hmark : mark.head?.any isHiragana = true) {c : Char} (hc : isHiragana c = false)
    (rest : List Char) : mark.isPrefixOf (c :: rest) = false := by
  cases mark with
  | nil => cases hmark
  | cons d mark =>
      have hne : (d == c) = false := by
        rw [beq_eq_false_iff_ne]
        intro h
        rw [← h, show isHiragana d = true from hmark] at hc
        cases hc
      rw [List.isPrefixOf_cons_cons, hne]
      rfl

/-- Every particle starts with hiragana. -/
theorem particle?_cons_of_not_hiragana {c : Char} (hc : isHiragana c = false) (rest : List Char) :
    particle? (c :: rest) = none := by
  have hall : particles.all (fun particle => particle.toList.head?.any isHiragana) = true := by
    decide +kernel
  unfold particle?
  rw [List.find?_eq_none]
  intro particle hmem
  rw [isPrefixOf_cons_of_not_hiragana (List.all_eq_true.mp hall particle hmem) hc]
  simp

theorem head?_name_of_mem_suffixes {k : Keyword} (hk : k ∈ Keyword.suffixes) :
    k.name.toList.head?.any isHiragana = true := by
  have hall : Keyword.suffixes.all (fun k => k.name.toList.head?.any isHiragana) = true := by
    decide +kernel
  exact List.all_eq_true.mp hall k hk

/-- So does every keyword that may follow a word. -/
theorem suffixAhead_cons_of_not_hiragana {c : Char} (hc : isHiragana c = false)
    (rest : List Char) : Keyword.suffixAhead (c :: rest) = false := by
  unfold Keyword.suffixAhead
  rw [List.any_eq_false]
  intro k hmem
  rw [isPrefixOf_cons_of_not_hiragana (head?_name_of_mem_suffixes hmem) hc]
  simp

/-- Between two characters that are not hiragana no word ends. -/
theorem wordEnd_cons_of_not_hiragana {last c : Char} (hlast : isHiragana last = false)
    (hword : isWordChar c = true) (hc : isHiragana c = false) (before rest : List Char) :
    wordEnd last before (c :: rest)
      = ((wordEnd c (last :: before) rest).1 + 1, (wordEnd c (last :: before) rest).2) := by
  have hends : endsBefore last (last :: before) c rest = false := by
    rw [endsBefore, suffixAhead_cons_of_not_hiragana hc, hlast]
    rfl
  rw [wordEnd, hword, particle?_cons_of_not_hiragana hc, ite_self, hends]
  rfl

/-- Where a keyword comes next that may follow a word, a word without hiragana at its end ends. -/
theorem wordEnd_suffix {last : Char} (hlast : isHiragana last = false) {k : Keyword}
    (hk : k ∈ Keyword.suffixes) (before later : List Char) :
    wordEnd last before (k.name.toList ++ later) = (0, particle? (k.name.toList ++ later)) := by
  have hahead : Keyword.suffixAhead (k.name.toList ++ later) = true :=
    List.any_eq_true.mpr ⟨k, hk, List.isPrefixOf_iff_prefix.mpr (List.prefix_append _ _)⟩
  have hchars := isWordChar_of_mem_suffixes k hk
  cases hname : k.name.toList with
  | nil =>
      have hhead := head?_name_of_mem_suffixes hk
      rw [hname] at hhead
      cases hhead
  | cons next rest =>
      rw [hname] at hahead hchars
      rw [List.cons_append] at hahead ⊢
      have hallows : allowsParticle last (last :: before) = true := by
        rw [allowsParticle, hlast]
        rfl
      have hends : endsBefore last (last :: before) next (rest ++ later) = true := by
        rw [endsBefore, hlast, hahead]
        rfl
      rw [wordEnd, hchars next (List.mem_cons_self ..), hallows, hends]
      cases particle? (next :: (rest ++ later)) with
      | none => rfl
      | some particle => rfl

/-- **A word without hiragana ends where such a keyword comes next.** -/
theorem wordEnd_append_suffix {last : Char} (hlast : isHiragana last = false) {word : List Char}
    (hword : ∀ c ∈ word, isWordChar c = true ∧ isHiragana c = false) {k : Keyword}
    (hk : k ∈ Keyword.suffixes) (before later : List Char) :
    wordEnd last before (word ++ (k.name.toList ++ later))
      = (word.length, particle? (k.name.toList ++ later)) := by
  induction word generalizing last before with
  | nil => exact wordEnd_suffix hlast hk before later
  | cons c word ih =>
      obtain ⟨⟨hchar, hc⟩, hmore⟩ := List.forall_mem_cons.mp hword
      rw [List.cons_append, wordEnd_cons_of_not_hiragana hlast hchar hc, ih hc hmore]
      rfl

end Nadesiko.Lexeme
