import Mathlib
import Nadesiko.Proofs.Lexeme.Words

/-!
# Words beyond the known length

Only the first characters of a word are compared with the known words, and one would think that this
saves time and nothing else. For keywords that is so, because none of them is longer than what is
compared. Built-in functions are another matter. They are known by the part before their ending, and
an ending may go on for as long as it likes, so there are known words of every length.

The search for the end of a word is therefore set beside one without the limit. The two can differ
at one kind of place only: behind a built-in function whose ending makes it longer than what is
compared, where a particle follows. With the limit the word goes on there.
-/

namespace Nadesiko

open Lexicon

namespace Lexicon

/-! ## The length of known words -/

/-- No entry of a table is longer than what is compared, and no built-in function ends in hiragana
without an ending. -/
theorem tables_fit :
    (∀ entry ∈ Keyword.spellings, entry.1.toList.length ≤ Lexeme.knownLength)
      ∧ (∀ name ∈ Builtin.variableNames ++ Builtin.constantNames ++ Builtin.functionStems,
        name.toList.length ≤ Lexeme.knownLength)
      ∧ ∀ name ∈ Builtin.functionStems,
        name.toList.getLast?.any (fun c => !isHiragana c) = true := by
  decide +kernel

theorem Keyword.length_le_of_ofSpelling? {word : List Char} {k : Keyword}
    (h : ofSpelling? (String.ofList word) = some k) : word.length ≤ Lexeme.knownLength := by
  have hle := tables_fit.1 _ (mem_spellings_of_ofSpelling? h)
  rw [String.toList_ofList] at hle
  exact hle

/-- What is taken off a word is an ending in hiragana. -/
theorem exists_ending (word : List Char) :
    ∃ ending, word = withoutEnding word ++ ending ∧ ∀ c ∈ ending, isHiragana c = true := by
  have hsplit : word.rdropWhile isHiragana ++ word.rtakeWhile isHiragana = word :=
    List.rdropWhile_append_rtakeWhile
  unfold withoutEnding
  split
  · exact ⟨[], (List.append_nil word).symm, List.forall_mem_nil _⟩
  · exact ⟨word.rtakeWhile isHiragana, hsplit.symm, fun c hc => List.mem_rtakeWhile_imp hc⟩

/-- An ending is taken off whatever does not end in hiragana itself. -/
theorem withoutEnding_append {name ending : List Char}
    (hname : name.getLast?.any (fun c => !isHiragana c) = true)
    (hending : ∀ c ∈ ending, isHiragana c = true) : withoutEnding (name ++ ending) = name := by
  obtain ⟨front, last, rfl⟩ : ∃ front last, name = front ++ [last] := by
    rcases List.eq_nil_or_concat name with rfl | ⟨front, last, rfl⟩
    · cases hname
    · exact ⟨front, last, List.concat_eq_append⟩
  have hlast : isHiragana last = false := by
    rw [List.getLast?_concat] at hname
    simpa using hname
  have hdrop : ((front ++ [last] ++ ending).reverse.dropWhile isHiragana).reverse
      = front ++ [last] := by
    rw [List.reverse_append, List.dropWhile_append_of_pos (by simpa using hending),
      List.reverse_append, List.reverse_singleton, List.singleton_append,
      List.dropWhile_cons_of_neg (by simp [hlast])]
    simp
  unfold withoutEnding
  rw [hdrop]
  split
  · next hnil => simp at hnil
  · rfl

/-- The name of a built-in function with an ending that makes it longer than what is compared. -/
def HasLongEnding (word : List Char) : Prop :=
  Lexeme.knownLength < word.length ∧ ∃ name ∈ Builtin.functionStems, ∃ ending,
    word = name.toList ++ ending ∧ ∀ c ∈ ending, isHiragana c = true

/-- Of the words beyond that length, these are the built-in ones. -/
theorem isSome_ofWord?_iff {word : List Char} (h : Lexeme.knownLength < word.length) :
    (Builtin.ofWord? word).isSome = true ↔ HasLongEnding word := by
  obtain ⟨_, hshort, hnames⟩ := tables_fit
  have hlonger : String.ofList word ∉ Builtin.variableNames ++ Builtin.constantNames := by
    intro hmem
    have hle := hshort _ (List.mem_append_left _ hmem)
    rw [String.toList_ofList] at hle
    exact absurd hle (Nat.not_le.mpr h)
  rw [List.mem_append, not_or] at hlonger
  -- so only the third table is left, in which a word is looked up without its ending
  have hlookup : (Builtin.ofWord? word).isSome = true
      ↔ String.ofList (withoutEnding word) ∈ Builtin.functionStems := by
    unfold Builtin.ofWord?
    dsimp only
    rw [if_neg hlonger.1, if_neg hlonger.2]
    split <;> simp_all
  rw [hlookup]
  constructor
  · intro hmem
    obtain ⟨ending, hword, hending⟩ := exists_ending word
    refine ⟨h, _, hmem, ending, ?_, hending⟩
    rw [String.toList_ofList]
    exact hword
  · rintro ⟨_, name, hmem, ending, rfl, hending⟩
    rw [withoutEnding_append (hnames name hmem) hending, String.ofList_toList]
    exact hmem

/-- Its last character belongs to the ending. -/
theorem HasLongEnding.isHiragana_last {word : List Char} {last : Char}
    (h : HasLongEnding (word ++ [last])) : isHiragana last = true := by
  obtain ⟨hlong, name, hmem, ending, hword, hending⟩ := h
  have hle := tables_fit.2.1 name (List.mem_append_right _ hmem)
  rcases List.eq_nil_or_concat ending with rfl | ⟨front, c, rfl⟩
  · -- without an ending the word would be one of the table
    rw [hword, List.append_nil] at hlong
    exact absurd hle (Nat.not_le.mpr hlong)
  · rw [List.concat_eq_append] at hword hending
    rw [← List.append_assoc] at hword
    have hlast := (List.append_inj' hword rfl).2
    rw [List.cons.inj hlast |>.1]
    exact hending c (List.mem_append_right _ (List.mem_singleton_self c))

end Lexicon

namespace Lexeme

/-! ## The search without the limit -/

/-- Whether a word ends before `next`, and with which particle, if it is known whether the
characters up to `last` are a keyword or a built-in name. -/
def stop? (keyword builtin : Bool) (last next : Char) (rest : List Char) : Option (Option String) :=
  if !isWordChar next then some none
  else
    match if !isHiragana last || keyword || builtin then particle? (next :: rest) else none with
    | some particle => some (some particle)
    | none =>
      if (!isHiragana last && Keyword.suffixAhead (next :: rest))
          || (isHiragana last && keyword && !isHiragana next) then some none
      else none

/-- The end of a word, when `keyword` and `builtin` tell whether the characters read so far, in
reverse order, are known. -/
def wordEndBy (keyword builtin : List Char → Bool) (last : Char) (before : List Char) :
    List Char → Nat × Option String
  | [] => (0, none)
  | next :: rest =>
    match stop? (keyword (last :: before)) (builtin (last :: before)) last next rest with
    | some particle => (0, particle)
    | none =>
      let (more, particle) := wordEndBy keyword builtin next (last :: before) rest
      (more + 1, particle)

/-- Whether the characters read so far are a keyword, however many they are. -/
def isKeyword (read : List Char) : Bool :=
  (Keyword.ofSpelling? (String.ofList read.reverse)).isSome

/-- Whether the characters read so far are a built-in name, however many they are. -/
def isBuiltin (read : List Char) : Bool := (Builtin.ofWord? read.reverse).isSome

/-- The end of a word, when all that has been read is compared with the known words at every
place. -/
def unlimitedWordEnd (last : Char) (before rest : List Char) : Nat × Option String :=
  wordEndBy isKeyword isBuiltin last before rest

/-- The search with the limit is the one that looks up short words only. -/
theorem wordEnd_eq_wordEndBy (last : Char) (before rest : List Char) :
    wordEnd last before rest = wordEndBy spellsKeyword spellsBuiltin last before rest := by
  induction rest generalizing last before with
  | nil => rfl
  | cons next rest ih =>
      rw [wordEnd, wordEndBy, stop?, ih, allowsParticle, endsBefore]
      by_cases hword : (!isWordChar next) = true
      · rw [if_pos hword, if_pos hword]
      rw [if_neg hword, if_neg hword]
      generalize (if !isHiragana last || spellsKeyword (last :: before)
        || spellsBuiltin (last :: before) then particle? (next :: rest) else none) = found
      cases found with
      | some particle => rfl
      | none =>
          dsimp only
          split_ifs
          · rfl
          · rfl

/-- For keywords the limit makes no difference. -/
theorem spellsKeyword_eq_isKeyword (read : List Char) : spellsKeyword read = isKeyword read := by
  rw [spellsKeyword, isKeyword]
  cases hk : Keyword.ofSpelling? (String.ofList read.reverse) with
  | none => exact Bool.and_false _
  | some k =>
      have hle := Keyword.length_le_of_ofSpelling? hk
      rw [List.length_reverse] at hle
      rw [comparable_iff.mpr hle]
      rfl

/-- For built-in names it makes one exactly if they have a long ending. -/
theorem spellsBuiltin_of_hasLongEnding {read : List Char} (h : HasLongEnding read.reverse) :
    spellsBuiltin read = false ∧ isBuiltin read = true := by
  have hlong : comparable read = false := by
    rw [← Bool.not_eq_true, comparable_iff, Nat.not_le, ← List.length_reverse]
    exact h.1
  refine ⟨?_, (isSome_ofWord?_iff h.1).mpr h⟩
  rw [spellsBuiltin, hlong]
  rfl

theorem spellsBuiltin_of_not_hasLongEnding {read : List Char} (h : ¬ HasLongEnding read.reverse) :
    spellsBuiltin read = isBuiltin read := by
  rw [spellsBuiltin, isBuiltin]
  by_cases hshort : comparable read = true
  · rw [hshort, Bool.true_and]
  · rw [comparable_iff, Nat.not_le, ← List.length_reverse] at hshort
    have hunknown : (Builtin.ofWord? read.reverse).isSome = false := by
      rw [← Bool.not_eq_true, isSome_ofWord?_iff hshort]
      exact h
    rw [hunknown, Bool.and_false]

/-- Behind hiragana that is no keyword, a built-in name matters only for particles. -/
theorem stop?_builtin {last : Char} (hlast : isHiragana last = true) (next : Char)
    (rest : List Char) :
    (stop? false false last next rest = stop? false true last next rest
      ∧ ∀ particle, stop? false true last next rest ≠ some (some particle))
      ∨ ((∃ particle, stop? false true last next rest = some (some particle))
        ∧ stop? false false last next rest = none) := by
  unfold stop?
  rw [hlast]
  by_cases hword : (!isWordChar next) = true
  · rw [if_pos hword, if_pos hword]
    simp
  rw [if_neg hword, if_neg hword]
  cases particle? (next :: rest) with
  | none => simp
  | some particle => simp

/-- **At one place both searches do the same, unless a particle follows a built-in function with a
long ending.** There the one with the limit goes on. -/
theorem stop?_cases (last next : Char) (before rest : List Char) :
    let limited := stop? (spellsKeyword (last :: before)) (spellsBuiltin (last :: before))
      last next rest
    let unlimited := stop? (isKeyword (last :: before)) (isBuiltin (last :: before)) last next rest
    (limited = unlimited
      ∧ (HasLongEnding (last :: before).reverse → ∀ particle, unlimited ≠ some (some particle)))
      ∨ (HasLongEnding (last :: before).reverse ∧ (∃ particle, unlimited = some (some particle))
        ∧ limited = none) := by
  dsimp only
  rw [spellsKeyword_eq_isKeyword]
  by_cases hlong : HasLongEnding (last :: before).reverse
  · obtain ⟨hlimited, hunlimited⟩ := spellsBuiltin_of_hasLongEnding hlong
    have hkeyword : isKeyword (last :: before) = false := by
      rw [isKeyword, Option.isSome_eq_false_iff, Option.isNone_iff_eq_none,
        Option.eq_none_iff_forall_ne_some]
      intro k hk
      exact absurd (Keyword.length_le_of_ofSpelling? hk) (Nat.not_le.mpr hlong.1)
    have hlast : isHiragana last = true := by
      rw [List.reverse_cons] at hlong
      exact hlong.isHiragana_last
    rw [hlimited, hunlimited, hkeyword]
    rcases stop?_builtin hlast next rest with ⟨hsame, hnone⟩ | hdiffer
    · exact Or.inl ⟨hsame, fun _ => hnone⟩
    · exact Or.inr ⟨hlong, hdiffer⟩
  · rw [spellsBuiltin_of_not_hasLongEnding hlong]
    exact Or.inl ⟨rfl, fun h => absurd h hlong⟩

/-- The word that is found without the limit is a built-in function with a long ending, and a
particle follows it. -/
def EndsLate (last : Char) (before rest : List Char) : Prop :=
  HasLongEnding ((last :: before).reverse ++ rest.take (unlimitedWordEnd last before rest).1)
    ∧ (unlimitedWordEnd last before rest).2 ≠ none

/-- **The two searches find the same end, or the one with the limit misses the particle and goes
on.** -/
theorem wordEnd_cases (last : Char) (before rest : List Char) :
    (¬ EndsLate last before rest ∧ wordEnd last before rest = unlimitedWordEnd last before rest)
      ∨ (EndsLate last before rest
        ∧ (unlimitedWordEnd last before rest).1 < (wordEnd last before rest).1) := by
  rw [wordEnd_eq_wordEndBy]
  unfold EndsLate unlimitedWordEnd
  induction rest generalizing last before with
  | nil => exact Or.inl ⟨fun hlate => hlate.2 rfl, rfl⟩
  | cons next rest ih =>
      rw [wordEndBy, wordEndBy]
      rcases stop?_cases last next before rest with
        ⟨hsame, hnone⟩ | ⟨hlong, ⟨particle, hparticle⟩, hgoes⟩
      · rw [hsame]
        cases hstop : stop? (isKeyword (last :: before)) (isBuiltin (last :: before)) last next
            rest with
        | some found =>
            refine Or.inl ⟨?_, rfl⟩
            rintro ⟨hlong, hfound⟩
            obtain ⟨particle, hparticle⟩ := Option.ne_none_iff_exists'.mp hfound
            rw [List.take_zero, List.append_nil] at hlong
            exact hnone hlong particle (hstop.trans (congrArg some hparticle))
        | none =>
            -- both go on, and the word found from here is the one found from the next character
            have hmore := ih next (last :: before)
            rw [List.reverse_cons, List.append_assoc, List.singleton_append] at hmore
            dsimp only
            rw [List.take_succ_cons]
            rcases hmore with ⟨hlate, heq⟩ | ⟨hlate, hlt⟩
            · exact Or.inl ⟨hlate, by rw [heq]⟩
            · exact Or.inr ⟨hlate, Nat.succ_lt_succ hlt⟩
      · rw [hparticle, hgoes]
        dsimp only
        rw [List.take_zero, List.append_nil]
        exact Or.inr ⟨⟨hlong, Option.some_ne_none particle⟩, Nat.succ_pos _⟩

/--
**The limit changes nothing but this.**

A word ends where it would end if all of its characters were compared with the known words, unless
it would then be a built-in function with an ending that makes it longer than the limit, followed by
a particle. In that case the particle is not found, and the word goes on beyond it.
-/
theorem wordEnd_eq_unlimited_iff (c : Char) (rest : List Char) :
    (wordEnd c [] rest = unlimitedWordEnd c [] rest
        ↔ ¬ (HasLongEnding (c :: rest.take (unlimitedWordEnd c [] rest).1)
          ∧ (unlimitedWordEnd c [] rest).2 ≠ none))
      ∧ (unlimitedWordEnd c [] rest).1 ≤ (wordEnd c [] rest).1 := by
  rcases wordEnd_cases c [] rest with ⟨hlate, heq⟩ | ⟨hlate, hlt⟩
  · exact ⟨iff_of_true heq hlate, by rw [heq]⟩
  · refine ⟨iff_of_false ?_ (not_not_intro hlate), Nat.le_of_lt hlt⟩
    intro heq
    rw [heq] at hlt
    exact Nat.lt_irrefl _ hlt

/-- The を behind a built-in function of thirteen characters is not found, though it is behind one of
twelve. -/
theorem wordEnd_ne_unlimited :
    startsWord '足' = true
      ∧ wordEnd '足' [] "ああああああああああああを".toList = (13, none)
      ∧ unlimitedWordEnd '足' [] "ああああああああああああを".toList = (12, some "を")
      ∧ wordEnd '足' [] "あああああああああああを".toList = (11, some "を") := by
  decide +kernel

end Lexeme

end Nadesiko
