import Mathlib
import Nadesiko.Proofs.Highlight.Lookup
import Nadesiko.Proofs.Token.Transport

/-!
# Everything but punctuation and strays is highlighted

Kinds get their names where tokens are made, from the tables of keywords and operators among others.
How a kind is highlighted is looked up by its name in a table of its own, and no type forces the two
to agree: a keyword that only one of them has would be read as ever and silently lose its colour.
They do agree. Every token of a text has one of the listed kinds, and the names of these are held
against the table one by one. Exactly three of them are not in it.

The standard legend can write every classification. So each token of another kind has an entry on
each of its lines, and all that is recorded on the way is which tokens were left out on purpose.
-/

namespace Nadesiko

open Text Lexicon

/-! ## Kinds and their names -/

namespace Kind

/-- The names of the listed kinds that are not highlighted: the comma, the full stop, and characters
that start nothing. -/
def plainNames : List String := ["comma", "eol", "unknown"]

theorem nodup_names_listed : (listed.map name).Nodup := by decide +kernel

theorem mem_listed {k : Kind} (h : ∀ s, k ≠ unlisted s) : k ∈ listed := by
  cases k with
  | unlisted s => exact absurd rfl (h s)
  | keyword k =>
      have hmem := List.mem_map_of_mem (f := keyword) k.mem_all
      exact List.mem_append_left _ (List.mem_append_right _ hmem)
  | operator op => exact List.mem_append_right _ (List.mem_map_of_mem op.mem_all)
  | builtin b => cases b <;> decide
  | _ => decide

/-- No two listed kinds share a name, so the name gives the kind back. -/
theorem ofName_name {k : Kind} (h : k ∈ listed) : ofName k.name = k := by
  cases hf : listed.find? (·.name == k.name) with
  | none => exact absurd (beq_self_eq_true k.name) (List.find?_eq_none.mp hf k h)
  | some other =>
      have hfits := List.find?_some hf
      have hname : other.name = k.name := eq_of_beq hfits
      have hother := List.mem_of_find?_eq_some hf
      rw [ofName, hf, Option.getD_some]
      exact List.inj_on_of_nodup_map nodup_names_listed hother h hname

/-- **The table of classifications has every listed kind but the plain ones.** -/
theorem ofName?_name_eq_none_iff {k : Kind} (h : k ∈ listed) :
    Classification.ofName? k.name = none ↔ k.name ∈ plainNames := by
  have hall : ∀ s ∈ listed.map name, Classification.ofName? s = none ↔ s ∈ plainNames := by
    decide +kernel
  exact hall k.name (List.mem_map_of_mem h)

end Kind

/-- Every token of a text has a listed kind. -/
theorem kind_mem_listed_of_mem_tokenize {text : List Char} {token : Token}
    (h : token ∈ tokenize text) : token.kind ∈ Kind.listed := by
  obtain ⟨read, hread, rfl⟩ := List.mem_map.mp h
  obtain ⟨lexeme, _, _, header, hkind⟩ := Token.exists_of_mem_ofLexemes hread
  have hgives := Header.givesKind_of_kind? hkind
  refine Kind.mem_listed ?_
  intro s hs
  -- marking a call gives a kind that is listed, and otherwise changes nothing
  unfold Token.markCall at hs
  split at hs
  · cases hs
  · rw [hs] at hgives
    exact hgives

/-! ## What a token contributes -/

theorem Token.length_segments (token : Token) (excludeParticle : Bool) (lineLengths : List Nat) :
    (token.segments excludeParticle lineLengths).length
      = token.stop.line + 1 - token.start.line := by
  rw [Token.segments, List.length_map, List.length_range']

/-- Under the standard legend a token has an entry on each of its lines, unless its kind is not
classified. -/
theorem Token.length_highlight_standard (token : Token) (lineLengths : List Nat) :
    (token.highlight lineLengths .standard).length
      = if token.kind.classification? = none then 0
        else token.stop.line + 1 - token.start.line := by
  unfold Token.highlight
  cases token.kind.classification? with
  | none => rfl
  | some c =>
      dsimp only
      rw [if_pos (Legend.lists_standard c), List.length_map, Token.length_segments,
        if_neg (Option.some_ne_none c)]

/-- The record of the tokens that are left out because their kind is not classified. -/
def Token.leftOut (tokens : List Token) : List Event :=
  (tokens.filter (fun token => token.kind.classification?.isNone)).map
    (fun token => .unclassified token.kind)

theorem Token.events_entries_standard (token : Token) (lineLengths : List Nat) :
    (token.entries lineLengths .standard).events = Token.leftOut [token] := by
  unfold Token.entries Token.leftOut
  cases hc : token.kind.classification? with
  | none => simp [hc]
  | some c =>
      have he := (Legend.encode_eq_ok_iff (by decide)).mpr ⟨Legend.lists_standard c, rfl⟩
      simp [hc, he]

theorem Entry.events_ofTokens_standard {lineLengths : List Nat} {previous : Position}
    {tokens : List Token}
    (hf : Follow previous (tokens.flatMap (Token.highlight lineLengths .standard))) :
    (ofTokens lineLengths .standard previous tokens).events = Token.leftOut tokens := by
  induction tokens generalizing previous with
  | nil => rfl
  | cons token later ih =>
      rw [List.flatMap_cons, follow_append_iff] at hf
      obtain ⟨hown, hlater⟩ := hf
      have hdisorder : disorder previous (token.highlight lineLengths .standard) = [] := by
        rw [disorder, misplaced_eq_nil_iff.mpr hown, List.map_nil]
      rw [ofTokens_cons_events (by decide), Token.events_entries_standard, hdisorder, ih hlater,
        List.nil_append, Token.leftOut, Token.leftOut, ← List.map_append, ← List.filter_append,
        List.singleton_append]
      rfl

/-- **Building the highlight of tokens in order records nothing but the tokens that are not
classified.** -/
theorem Buffer.events_build_standard {tokens : List Token} (h : Token.InOrder tokens)
    (lineLengths : List Nat) (resultId : Option String) :
    (Buffer.build tokens lineLengths .standard resultId).events = Token.leftOut tokens := by
  have hl : Legend.standard.modifiers.length ≤ wordBits := by decide
  have ho := Entry.ofTokens_outcome hl lineLengths .zero tokens
  have hf := Entry.follow_zero_iff.mpr (h.inOrder_highlight lineLengths .standard)
  rw [Buffer.build, Logged.events_bind_of_ok ho, Entry.events_ofTokens_standard hf]
  exact List.append_nil _

theorem Token.level_of_mem_leftOut {tokens : List Token} {event : Event}
    (h : event ∈ Token.leftOut tokens) : event.level = .trace := by
  obtain ⟨token, _, rfl⟩ := List.mem_map.mp h
  rfl

/--
**Of the tokens of a text, exactly commas, full stops and strays are not highlighted.**

The kind of a token is known by its name, and the name is missing from the table of classifications
just for these three kinds. Under the standard legend every other token has as many entries as it
has lines, and building them gives no warning.
-/
theorem tokenize_classified (text : List Char) (hlen : units text < wordLimit)
    (resultId : Option String) :
    (∀ token ∈ tokenize text, Kind.ofName token.kind.name = token.kind
      ∧ (Classification.ofName? token.kind.name = none
        ↔ token.kind.name ∈ ["comma", "eol", "unknown"]))
      ∧ ∃ buffer, (Buffer.build (tokenize text) (lineLengths text) .standard resultId).outcome
          = .ok buffer
        ∧ Delta.decode buffer.data
          = .ok ((tokenize text).flatMap (Token.highlight (lineLengths text) .standard))
        ∧ (∀ token ∈ tokenize text, (token.highlight (lineLengths text) .standard).length
          = if token.kind.name ∈ ["comma", "eol", "unknown"] then 0
            else token.stop.line - token.start.line + 1)
        ∧ ∀ event ∈ (Buffer.build (tokenize text) (lineLengths text) .standard resultId).events,
          event.level ≠ .warn := by
  have hord := Token.inOrder_tokenize text
  have hl : Legend.standard.modifiers.length ≤ wordBits := by decide
  obtain ⟨buffer, hbuffer, hdecode⟩ := Buffer.build_decode_of_inOrder hord
    (fun token h => fitsWords_of_mem_tokenize hlen h) hl (lineLengths text) resultId
  refine ⟨?_, buffer, hbuffer, hdecode, ?_, ?_⟩
  · intro token h
    have hkind := kind_mem_listed_of_mem_tokenize h
    exact ⟨Kind.ofName_name hkind, Kind.ofName?_name_eq_none_iff hkind⟩
  · intro token h
    have hkind := Kind.ofName?_name_eq_none_iff (kind_mem_listed_of_mem_tokenize h)
    have hspan := hord.start_le_stop token h
    rw [Position.le_iff] at hspan
    have hlines : token.stop.line + 1 - token.start.line
        = token.stop.line - token.start.line + 1 := by omega
    rw [Token.length_highlight_standard, hlines]
    simp only [Kind.classification?, hkind, Kind.plainNames]
  · intro event h hwarn
    rw [Buffer.events_build_standard hord] at h
    rw [Token.level_of_mem_leftOut h] at hwarn
    cases hwarn

/-- A string over two lines has two entries, a keyword one, and the comma and the stray between them
none. -/
theorem tokenize_classified_two_lines :
    units "「あ\nい」、＠もし".toList < wordLimit
      ∧ (tokenize "「あ\nい」、＠もし".toList).map (fun token => token.kind.name)
        = ["string", "comma", "unknown", "もし"]
      ∧ ∃ buffer entries, (Buffer.build (tokenize "「あ\nい」、＠もし".toList)
          (lineLengths "「あ\nい」、＠もし".toList) .standard none).outcome = .ok buffer
        ∧ Delta.decode buffer.data = .ok entries ∧ entries.length = 3 := by
  have hlen : units "「あ\nい」、＠もし".toList < wordLimit := by decide
  obtain ⟨_, buffer, hbuffer, hdecode, hcount, _⟩ := tokenize_classified _ hlen none
  refine ⟨hlen, by decide +kernel, buffer, _, hbuffer, hdecode, ?_⟩
  rw [List.length_flatMap, List.map_congr_left hcount]
  decide +kernel

end Nadesiko
