import Mathlib
import Nadesiko.Proofs.Token.Stream

/-!
# Tokens of changed lexemes

Kinds depend on little: on the shapes of lexemes, on the stems of words, and on nothing of where
lexemes stand. So when the lexemes of a text are changed in another respect, each by itself, the
tokens change in the same way and keep their kinds. This goes for both steps in which tokens are
made: for headers, and for calls as long as the names of functions stay.
-/

namespace Nadesiko

namespace Header

variable {lexeme other : Lexeme}

theorem kind?_congr (hshape : other.shape = lexeme.shape)
    (hstem : lexeme.shape = .word → other.stem = lexeme.stem) (header : Header) :
    header.kind? other = header.kind? lexeme := by
  unfold kind?
  rw [hshape]
  cases hs : lexeme.shape with
  | word => dsimp only; rw [hstem hs]
  | _ => rfl

theorem next_congr (hshape : other.shape = lexeme.shape) (header : Header) :
    header.next other = header.next lexeme := by
  unfold next
  rw [hshape]

/-- The kinds that a lexeme can have by itself and by its header. Calls are found out only later,
and big integers and kinds known only by name are never read. -/
def GivesKind : Kind → Prop
  | .userFunction | .bigInteger | .unlisted _ => False
  | _ => True

theorem givesKind_wordKind (stem : List Char) : GivesKind (wordKind stem) := by
  unfold wordKind
  split
  · trivial
  · split <;> trivial

theorem givesKind_of_kind? {header : Header} {kind : Kind} (h : header.kind? lexeme = some kind) :
    GivesKind kind := by
  unfold kind? at h
  split at h
  case h_3 =>
    rw [← Option.some.inj h]
    unfold wordKindIn
    split
    · trivial
    · trivial
    · exact givesKind_wordKind _
    · exact givesKind_wordKind _
  all_goals cases h <;> trivial

/-- Headers name functions, but they know nothing of calls. -/
theorem kind?_ne_userFunction (header : Header) (lexeme : Lexeme) :
    header.kind? lexeme ≠ some .userFunction := fun h => givesKind_of_kind? h

/-- Names are words. -/
theorem shape_of_kind? {header : Header} {kind : Kind} (h : header.kind? lexeme = some kind)
    (hkind : kind = .word ∨ kind = .functionName) : lexeme.shape = .word := by
  unfold kind? at h
  split at h
  case h_3 hshape => exact hshape
  all_goals rcases hkind with rfl | rfl <;> cases h

end Header

namespace Token

/-! ## Headers -/

theorem ofLexemes_filter_blank (header : Header) (lexemes : List Lexeme) :
    ofLexemes header (lexemes.filter (fun lexeme => lexeme.shape != .blank))
      = ofLexemes header lexemes := by
  induction lexemes generalizing header with
  | nil => rfl
  | cons lexeme later ih =>
      by_cases hblank : lexeme.shape = .blank
      · have hkind : header.kind? lexeme = none := by rw [Header.kind?, hblank]
        have hnext : header.next lexeme = header := by rw [Header.next, hblank]
        rw [List.filter_cons_of_neg (by simp [hblank]), ofLexemes, hkind, hnext, ih]
      · rw [List.filter_cons_of_pos (by simp [hblank]), ofLexemes, ofLexemes, ih]

theorem ofLexemes_map {f : Lexeme → Lexeme} {g : Token → Token} {lexemes : List Lexeme}
    (hshape : ∀ lexeme, (f lexeme).shape = lexeme.shape)
    (hstem : ∀ lexeme ∈ lexemes, lexeme.shape = .word → (f lexeme).stem = lexeme.stem)
    (htoken : ∀ lexeme ∈ lexemes, ∀ kind, ofLexeme kind (f lexeme) = g (ofLexeme kind lexeme))
    (header : Header) :
    ofLexemes header (lexemes.map f) = (ofLexemes header lexemes).map g := by
  induction lexemes generalizing header with
  | nil => rfl
  | cons lexeme later ih =>
      rw [List.forall_mem_cons] at hstem htoken
      rw [List.map_cons, ofLexemes, ofLexemes, Header.kind?_congr (hshape lexeme) hstem.1,
        Header.next_congr (hshape lexeme), ih hstem.2 htoken.2]
      cases header.kind? lexeme with
      | none => rfl
      | some kind =>
          dsimp only
          rw [List.map_cons, htoken.1]

theorem exists_of_mem_ofLexemes {header : Header} {lexemes : List Lexeme} {token : Token}
    (h : token ∈ ofLexemes header lexemes) :
    ∃ lexeme ∈ lexemes, token.IsOf lexeme ∧ ∃ header' : Header,
      header'.kind? lexeme = some token.kind := by
  induction lexemes generalizing header with
  | nil => cases h
  | cons lexeme later ih =>
      rw [ofLexemes] at h
      split at h
      · obtain ⟨other, hmem, hof⟩ := ih h
        exact ⟨other, List.mem_cons_of_mem _ hmem, hof⟩
      · next kind hkind =>
          rcases List.mem_cons.mp h with rfl | hlater
          · refine ⟨lexeme, List.mem_cons_self .., isOf_ofLexeme kind lexeme, header, ?_⟩
            rw [kind_ofLexeme, hkind]
          · obtain ⟨other, hmem, hof⟩ := ih hlater
            exact ⟨other, List.mem_cons_of_mem _ hmem, hof⟩

/-- A token that names something is made of a word. -/
theorem exists_word_of_mem_ofLexemes {header : Header} {lexemes : List Lexeme} {token : Token}
    (h : token ∈ ofLexemes header lexemes)
    (hkind : token.kind = .word ∨ token.kind = .functionName) :
    ∃ lexeme ∈ lexemes, lexeme.shape = .word ∧ token.IsOf lexeme := by
  obtain ⟨lexeme, hmem, hof, header', hk⟩ := exists_of_mem_ofLexemes h
  exact ⟨lexeme, hmem, Header.shape_of_kind? hk hkind, hof⟩

theorem kind_ne_userFunction_of_mem_ofLexemes {header : Header} {lexemes : List Lexeme}
    {token : Token} (h : token ∈ ofLexemes header lexemes) : token.kind ≠ .userFunction := by
  obtain ⟨lexeme, _, _, header', hk⟩ := exists_of_mem_ofLexemes h
  intro hkind
  rw [hkind] at hk
  exact Header.kind?_ne_userFunction header' lexeme hk

/-! ## Calls -/

/-- The same token with another kind. -/
def withKind (token : Token) (kind : Kind) : Token := { token with kind := kind }

/-- A change of tokens in which their kinds play no part. -/
def IgnoresKind (g : Token → Token) : Prop :=
  ∀ token kind, g (token.withKind kind) = (g token).withKind kind

theorem markCall_of_word (names : List String) {token : Token} (h : token.kind = .word) :
    markCall names token
      = token.withKind (if token.stem ∈ names then .userFunction else .word) := by
  unfold markCall
  by_cases hname : token.stem ∈ names
  · simp [h, hname, withKind]
  · have hsame : token.withKind .word = token := by
      rw [← h]
      rfl
    simp [h, hname, hsame]

theorem markCall_of_ne_word (names : List String) {token : Token} (h : token.kind ≠ .word) :
    markCall names token = token := by
  unfold markCall
  rw [beq_eq_false_iff_ne.mpr h]
  rfl

section markCalls

variable {g : Token → Token} {tokens : List Token}

theorem IgnoresKind.kind_eq (hg : IgnoresKind g) (token : Token) : (g token).kind = token.kind := by
  have hsame := congrArg kind (hg token token.kind)
  exact hsame

theorem definedNames_map
    (hkind : ∀ token, (g token).kind = .functionName ↔ token.kind = .functionName)
    (hstem : ∀ token ∈ tokens, token.kind = .functionName → (g token).stem = token.stem) :
    definedNames (tokens.map g) = definedNames tokens := by
  unfold definedNames
  have hfilter : (fun token : Token => token.kind == .functionName) ∘ g
      = fun token => token.kind == .functionName := by
    funext token
    rw [Function.comp_apply, Bool.eq_iff_iff, beq_iff_eq, beq_iff_eq, hkind]
  rw [List.filter_map, hfilter, List.map_map]
  refine List.map_congr_left ?_
  intro token hmem
  obtain ⟨hmem, hname⟩ := List.mem_filter.mp hmem
  exact hstem token hmem (beq_iff_eq.mp hname)

theorem markCall_map (hg : IgnoresKind g) (names : List String) {token : Token}
    (hstem : token.kind = .word → (g token).stem = token.stem) :
    markCall names (g token) = g (markCall names token) := by
  have hkind := hg.kind_eq token
  by_cases hword : token.kind = .word
  · rw [markCall_of_word names hword, markCall_of_word names (hkind.trans hword), hstem hword, hg]
  · rw [markCall_of_ne_word names hword, markCall_of_ne_word names (by rwa [hkind])]

/-- **What changes neither kinds nor names leaves calls what they are.** -/
theorem markCalls_map (hg : IgnoresKind g)
    (hstem : ∀ token ∈ tokens, token.kind = .word ∨ token.kind = .functionName →
      (g token).stem = token.stem) :
    markCalls (tokens.map g) = (markCalls tokens).map g := by
  unfold markCalls
  rw [definedNames_map (fun token => by rw [hg.kind_eq])
    (fun token hmem hname => hstem token hmem (Or.inr hname)), List.map_map, List.map_map]
  refine List.map_congr_left ?_
  intro token hmem
  exact markCall_map hg _ (fun hword => hstem token hmem (Or.inl hword))

end markCalls

end Token

end Nadesiko
