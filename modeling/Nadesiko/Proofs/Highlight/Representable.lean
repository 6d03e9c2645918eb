import Mathlib
import Nadesiko.Highlight.Buffer

/-!
# Building a buffer succeeds

The only step of building a buffer that can stop it is the shift that turns the index of a modifier
into a bit. A legend whose modifiers all have a bit in a word therefore yields a buffer for every
list of tokens: what such a legend cannot express is a fault of the single token, which is left out
while its neighbours stay.
-/

namespace Nadesiko

namespace Legend

/-- A modifier found in a legend of at most a word's bits has a bit of its own. -/
theorem modifierBit_ne_unrepresentable {legend : Legend}
    (hl : legend.modifiers.length ≤ wordBits) (m m' : Modifier) :
    legend.modifierBit m ≠ .error (.unrepresentable m') := by
  intro h
  unfold modifierBit at h
  cases hi : legend.modifiers.idxOf? m with
  | none => simp [hi] at h
  | some index =>
      obtain ⟨hlt, _⟩ := List.idxOf?_eq_some_iff.mp hi
      have hw : index < wordBits := by omega
      simp [hi, hw] at h

theorem foldlM_modifierBit_ne_unrepresentable {legend : Legend}
    (hl : legend.modifiers.length ≤ wordBits) (modifiers : List Modifier) (bits : Nat)
    (m' : Modifier) :
    modifiers.foldlM (fun bits m => return bits ||| (← legend.modifierBit m)) bits
      ≠ .error (.unrepresentable m') := by
  induction modifiers generalizing bits with
  | nil => intro h; cases h
  | cons m modifiers ih =>
      intro h
      rw [List.foldlM_cons] at h
      cases hm : legend.modifierBit m with
      | error fault =>
          rw [hm] at h
          have hf : fault = .unrepresentable m' := by simpa [bind, Except.bind] using h
          exact modifierBit_ne_unrepresentable hl m m' (hf ▸ hm)
      | ok bit =>
          rw [hm] at h
          exact ih (bits ||| bit) h

/-- A classification that cannot be written with such a legend is missing from it. -/
theorem encode_ne_unrepresentable {legend : Legend} (hl : legend.modifiers.length ≤ wordBits)
    (c : Classification) (m : Modifier) : legend.encode c ≠ .error (.unrepresentable m) := by
  intro h
  unfold encode at h
  cases hc : legend.categoryIndex c.category with
  | error fault =>
      have hf : fault = .unrepresentable m := by simpa [hc, bind, Except.bind] using h
      unfold categoryIndex at hc
      split at hc <;> simp_all
  | ok index =>
      rw [hc] at h
      cases hm : legend.modifierBits c.modifiers with
      | error fault =>
          have hf : fault = .unrepresentable m := by simpa [hm, bind, Except.bind] using h
          exact foldlM_modifierBit_ne_unrepresentable hl c.modifiers 0 m (hf ▸ hm)
      | ok bits => simp [hm, bind, Except.bind, pure, Except.pure] at h

end Legend

/-- Every token has its entries, be they none. -/
theorem Token.entries_outcome_ok {legend : Legend} (hl : legend.modifiers.length ≤ wordBits)
    (token : Token) (lineLengths : List Nat) :
    ∃ entries, (token.entries lineLengths legend).outcome = .ok entries := by
  unfold Token.entries
  cases token.kind.classification? with
  | none => exact ⟨[], rfl⟩
  | some c =>
      cases he : legend.encode c with
      | ok pair => exact ⟨_, by simp only [he]; rfl⟩
      | error fault =>
          cases fault with
          | unknownCategory k => exact ⟨[], by simp [he]⟩
          | unknownModifier m => exact ⟨[], by simp [he]⟩
          -- the one fault that would stop the build
          | unrepresentable m => exact absurd he (Legend.encode_ne_unrepresentable hl c m)

theorem Entry.ofTokens_outcome_ok {legend : Legend} (hl : legend.modifiers.length ≤ wordBits)
    (lineLengths : List Nat) (tokens : List Token) (previous : Position) :
    ∃ entries, (Entry.ofTokens lineLengths legend previous tokens).outcome = .ok entries := by
  induction tokens generalizing previous with
  | nil => exact ⟨[], rfl⟩
  | cons token later ih =>
      obtain ⟨entries, he⟩ := token.entries_outcome_ok hl lineLengths
      obtain ⟨others, ho⟩ := ih (lastStart previous entries)
      refine ⟨entries ++ others, ?_⟩
      rw [Entry.ofTokens, Logged.outcome_bind_of_ok he]
      exact (Logged.outcome_bind_of_ok rfl _).trans (Logged.outcome_bind_of_ok ho _)

/-- **A legend with at most 32 modifiers never stops a build.** -/
theorem Buffer.build_outcome_ok {legend : Legend} (hl : legend.modifiers.length ≤ wordBits)
    (tokens : List Token) (lineLengths : List Nat) (resultId : Option String) :
    ∃ buffer, (Buffer.build tokens lineLengths legend resultId).outcome = .ok buffer := by
  obtain ⟨entries, he⟩ := Entry.ofTokens_outcome_ok hl lineLengths tokens .zero
  exact ⟨⟨resultId, Entry.encode entries⟩, Logged.outcome_bind_of_ok he _⟩

end Nadesiko
