import Mathlib
import Nadesiko.Proofs.Token.Lookup

/-!
# Looking a position up finds the token that covers it

A token covers the positions from its start up to its stop, the stop not included. So a token that
takes no room covers nothing, and where two tokens touch, the place between them belongs to the
second. Of tokens in order at most one covers a position, because the other one would have to stop
before the first one starts.

The place of the token in the list is found by counting what the look-up has not skipped. Skipping
from the left leaves an end of the list, so the count tells the place: `getElem?_of_indexAt?`.
-/

namespace Nadesiko

namespace Token

/-- A token covers the positions from its start up to, and without, its stop. -/
def Covers (token : Token) (p : Position) : Prop := token.start ≤ p ∧ p < token.stop

instance (token : Token) (p : Position) : Decidable (token.Covers p) :=
  inferInstanceAs (Decidable (_ ∧ _))

variable {tokens : List Token} {p : Position}

/-- No position is covered twice. -/
theorem InOrder.eq_of_covers (h : InOrder tokens) {i j : Nat} {first second : Token}
    (hi : tokens[i]? = some first) (hj : tokens[j]? = some second) (hfirst : first.Covers p)
    (hsecond : second.Covers p) : i = j := by
  have hapart : ∀ {i j : Nat} {a b : Token}, tokens[i]? = some a → tokens[j]? = some b →
      p < a.stop → b.start ≤ p → ¬ i < j := by
    intro i j a b ha hb hstop hstart hlt
    obtain ⟨hilen, rfl⟩ := List.getElem?_eq_some_iff.mp ha
    obtain ⟨hjlen, rfl⟩ := List.getElem?_eq_some_iff.mp hb
    have hle := List.pairwise_iff_getElem.mp h.stop_le_start i j hilen hjlen hlt
    exact Position.not_lt.mpr (Position.le_trans hle hstart) hstop
  have hij := hapart hi hj hfirst.2 hsecond.1
  have hji := hapart hj hi hsecond.2 hfirst.1
  omega

/-- What the look-up leaves is an end of the list. -/
theorem endingAfter_suffix (tokens : List Token) (p : Position) :
    endingAfter tokens p <:+ tokens :=
  (List.dropWhile_suffix _).trans (List.dropWhile_suffix _)

/-- The place that is found is the place of the token that is found. -/
theorem getElem?_of_indexAt? {i : Nat} (h : indexAt? tokens p = some i) :
    tokens[i]? = at? tokens p := by
  obtain ⟨token, hat, rfl⟩ := Option.map_eq_some_iff.mp h
  have hleft := List.suffix_iff_eq_drop.mp (endingAfter_suffix tokens p)
  have hhead : (endingAfter tokens p).head? = some token :=
    (Option.filter_eq_some_iff.mp hat).1
  rw [hat, ← hhead, ← List.head?_drop, ← hleft]

theorem InOrder.indexAt?_eq_some_iff (h : InOrder tokens) {i : Nat} :
    indexAt? tokens p = some i ↔ ∃ token, tokens[i]? = some token ∧ token.Covers p := by
  constructor
  · intro hindex
    obtain ⟨token, hat, _⟩ := Option.map_eq_some_iff.mp hindex
    exact ⟨token, (getElem?_of_indexAt? hindex).trans hat, ((at?_eq_some_iff h).mp hat).2⟩
  · rintro ⟨token, hi, hcovers⟩
    have hat : at? tokens p = some token :=
      (at?_eq_some_iff h).mpr ⟨List.mem_of_getElem? hi, hcovers⟩
    obtain ⟨j, hj⟩ : ∃ j, indexAt? tokens p = some j := ⟨_, by rw [indexAt?, hat]; rfl⟩
    -- the place that is found holds the token too, and the token has only one place
    rw [h.eq_of_covers hi ((getElem?_of_indexAt? hj).trans hat) hcovers hcovers, hj]

/-- Looking a position up finds the one token that covers it, if there is one. -/
structure FindsCovering (tokens : List Token) (p : Position) : Prop where
  /-- What is found covers the position, and what covers the position is found. -/
  found : ∀ token, at? tokens p = some token ↔ token ∈ tokens ∧ token.Covers p
  /-- The place in the list is that of the covering token. -/
  place : ∀ i, indexAt? tokens p = some i ↔ ∃ token, tokens[i]? = some token ∧ token.Covers p
  /-- The covering token stands in one place only. -/
  unique : ∀ (i j : Nat) (first second : Token), tokens[i]? = some first →
    tokens[j]? = some second → first.Covers p → second.Covers p → i = j
  /-- Nothing is found exactly if nothing covers the position. -/
  missed : at? tokens p = none ↔ ∀ token ∈ tokens, ¬ token.Covers p

theorem InOrder.findsCovering (h : InOrder tokens) (p : Position) : FindsCovering tokens p where
  found := fun _ => at?_eq_some_iff h
  place := fun _ => h.indexAt?_eq_some_iff
  unique := fun _ _ _ _ hi hj hfirst hsecond => h.eq_of_covers hi hj hfirst hsecond
  missed := by
    rw [Option.eq_none_iff_forall_ne_some]
    constructor
    · intro hnone token hmem hcovers
      exact hnone token ((at?_eq_some_iff h).mpr ⟨hmem, hcovers⟩)
    · intro hnone token hat
      obtain ⟨hmem, hcovers⟩ := (at?_eq_some_iff h).mp hat
      exact hnone token hmem hcovers

end Token

open Token

/--
**Looking a position up in tokens that follow each other finds the one that covers it.**

It is enough that no token goes back and that each stops before the next one starts, which is so for
the tokens of every text.
-/
theorem findsCovering_of_isChain :
    (∀ (tokens : List Token) (p : Position), (∀ token ∈ tokens, token.start ≤ token.stop) →
      tokens.IsChain (fun token next => token.stop ≤ next.start) → FindsCovering tokens p)
      ∧ ∀ (text : List Char) (p : Position), FindsCovering (tokenize text) p := by
  refine ⟨?_, ?_⟩
  · intro tokens p hspan hnext
    exact (inOrder_of_isChain hspan hnext).findsCovering p
  · intro text p
    exact (inOrder_tokenize text).findsCovering p

/-- Between a string over two lines and a number that touches it stands a token that takes no room.
The place where they meet is the number's. -/
theorem findsCovering_of_isChain_touching :
    indexAt? [.plain .string "「a\nb」" ⟨1, 2⟩ ⟨2, 2⟩, .plain .unknown "" ⟨2, 2⟩ ⟨2, 2⟩,
      .plain .number "3" ⟨2, 2⟩ ⟨2, 3⟩] ⟨2, 2⟩ = some 2 := by
  have hfinds := findsCovering_of_isChain.1
    [.plain .string "「a\nb」" ⟨1, 2⟩ ⟨2, 2⟩, .plain .unknown "" ⟨2, 2⟩ ⟨2, 2⟩,
      .plain .number "3" ⟨2, 2⟩ ⟨2, 3⟩] ⟨2, 2⟩ (by decide) (by decide)
  exact (hfinds.place 2).mpr ⟨_, rfl, by decide⟩

end Nadesiko
