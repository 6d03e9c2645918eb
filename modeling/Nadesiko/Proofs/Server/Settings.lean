import Mathlib
import Nadesiko.Proofs.Highlight.Buffer
import Nadesiko.Proofs.Server.Session

/-!
# Settings never show in a reply

The settings say whether highlights are traced to the client's log, and nothing else looks at them.
So a session goes as it would go with tracing off throughout and with nothing said about settings at
all: `run_quiet`. Two sessions that differ in their settings only are then one and the same, as far
as replies and documents go.

There is one way in which tracing could interfere. A highlight is decoded to be printed, and
decoding stops where a sum does not fit into a word. `Document.Printable` says why this never
happens: a highlight is built from tokens that stand in order and whose numbers are words.
-/

namespace Nadesiko

open Text

namespace Call

/-- Whether a call carries settings and nothing else. -/
def configures : Call → Bool
  | configure _ => true
  | _ => false

/-- The same call without the settings that it may carry. -/
def withoutOptions : Call → Call
  | start _ => start none
  | call => call

/-- What is left of a list of calls when settings are taken out. -/
def bare (calls : List Call) : List Call :=
  (calls.filter (fun call => !call.configures)).map withoutOptions

/-- The numbers of the tokens that a call brings are words. -/
def FitsWords (call : Call) : Prop :=
  ∀ text ∈ call.texts, ∀ token ∈ tokenize text.toList, token.FitsWords

theorem configures_withoutOptions (call : Call) :
    call.withoutOptions.configures = call.configures := by
  cases call <;> rfl

theorem texts_withoutOptions (call : Call) : call.withoutOptions.texts = call.texts := by
  cases call <;> rfl

theorem withoutOptions_withoutOptions (call : Call) :
    call.withoutOptions.withoutOptions = call.withoutOptions := by
  cases call <;> rfl

/-- Settings bring no tokens. -/
theorem fitsWords_of_configures {call : Call} (h : call.configures = true) : call.FitsWords := by
  cases call with
  | configure settings =>
      intro text hmem
      cases hmem
  | _ => cases h

theorem forall_bare_fitsWords_iff {calls : List Call} :
    (∀ call ∈ bare calls, call.FitsWords) ↔ ∀ call ∈ calls, call.FitsWords := by
  have hsame : ∀ call : Call, call.withoutOptions.FitsWords ↔ call.FitsWords := by
    intro call
    rw [FitsWords, texts_withoutOptions, FitsWords]
  simp only [bare, List.forall_mem_map, List.mem_filter, hsame]
  constructor
  · intro h call hmem
    cases hc : call.configures with
    | true => exact fitsWords_of_configures hc
    | false => exact h call ⟨hmem, by rw [hc]; rfl⟩
  · intro h call hmem
    exact h call hmem.1

end Call

namespace Exchange

/-- What a client sees of a session, the messages in its log apart: every call that is not about
settings, with its reply and with the number of documents that are open afterwards. -/
def outward (exchanges : List Exchange) : List (Call × Reply × Nat) :=
  (exchanges.filter (fun exchange => !exchange.call.configures)).map
    (fun exchange =>
      (exchange.call.withoutOptions, exchange.answer.reply, exchange.after.registry.size))

/-- A highlight that is asked for during the session is given, and traced if tracing is on. -/
def TracesAsAsked (legend : Legend) (exchange : Exchange) : Prop :=
  ∀ uri, exchange.call = .highlight uri → exchange.after.phase = .running →
    ∃ buffer, exchange.answer.reply = .result (.highlight buffer)
      ∧ buffer.Traced legend uri exchange.after.settings.traceSemanticTokens
        exchange.answer.messages

end Exchange

namespace Server

variable {server next : Server} {call : Call} {answer : Answer}

/-! ## Settings -/

/-- The same server with tracing off. -/
def quiet (server : Server) : Server := { server with settings := ⟨false⟩ }

theorem quiet_of_configures (h : (server.handle call).outcome = .ok (answer, next))
    (hc : call.configures = true) : next.quiet = server.quiet := by
  cases call with
  | configure settings =>
      rcases handle_cases h with ⟨_, hstart, _⟩ | hserve | ⟨_, rfl, _⟩
      · cases hstart
      · obtain ⟨_, hs⟩ := server.applySettings_outcome settings
        cases (Logged.outcome_bind_of_ok hs _).symm.trans hserve
        rfl
      · rfl
  | _ => cases hc

theorem serve_quiet (h : (server.serve call).outcome = .ok (answer, next))
    (hc : call.configures = false) :
    ∃ messages, (server.quiet.serve call.withoutOptions).outcome
      = .ok (⟨answer.reply, messages⟩, next.quiet) := by
  cases call with
  | configure settings => cases hc
  | changeText uri version texts =>
      cases (Logged.outcome_bind_of_ok (server.change_outcome uri version texts) _).symm.trans h
      exact ⟨[], Logged.outcome_bind_of_ok (server.quiet.change_outcome uri version texts) _⟩
  | highlight uri =>
      -- the registry does not know whether its answer is traced
      obtain ⟨buffer, registry, hh, hreply, _, rfl⟩ := highlight_eq_ok_iff.mp h
      exact ⟨[], highlight_eq_ok_iff.mpr ⟨buffer, registry, hh, hreply, rfl, rfl⟩⟩
  | _ =>
      cases h
      exact ⟨_, rfl⟩

/-- **A server replies to a call as it would with tracing off**, and does the same to its
documents. -/
theorem handle_quiet (h : (server.handle call).outcome = .ok (answer, next))
    (hc : call.configures = false) :
    ∃ messages, (server.quiet.handle call.withoutOptions).outcome
      = .ok (⟨answer.reply, messages⟩, next.quiet) := by
  obtain ⟨phase, registry, settings⟩ := server
  cases phase with
  | fresh =>
      cases call with
      | start options =>
          obtain ⟨_, hs⟩ := start_outcome ⟨.fresh, registry, settings⟩ options
          cases hs.symm.trans h
          exact ⟨[], rfl⟩
      | _ =>
          cases h
          exact ⟨_, rfl⟩
  | running => exact serve_quiet h hc
  | ended =>
      cases call <;>
      · cases h
        exact ⟨_, rfl⟩

/-- **A session looks as it would with tracing off and nothing said about settings.** -/
theorem run_quiet {calls : List Call} {exchanges : List Exchange}
    (h : (server.run calls).outcome = .ok exchanges) :
    ∃ plain, (server.quiet.run (Call.bare calls)).outcome = .ok plain
      ∧ Exchange.outward plain = Exchange.outward exchanges := by
  induction calls generalizing server exchanges with
  | nil =>
      cases h
      exact ⟨[], rfl, rfl⟩
  | cons call later ih =>
      obtain ⟨answer, next, rest, hcall, hrest, rfl⟩ := run_cons_eq_ok_iff.mp h
      obtain ⟨plain, hplain, hsame⟩ := ih hrest
      cases hc : call.configures with
      | true =>
          -- the plain session waits
          refine ⟨plain, ?_, ?_⟩
          · rw [quiet_of_configures hcall hc] at hplain
            rw [Call.bare, List.filter_cons_of_neg (by simp [hc])]
            exact hplain
          · rw [hsame, Exchange.outward, Exchange.outward, List.filter_cons_of_neg (by simp [hc])]
      | false =>
          obtain ⟨messages, hquiet⟩ := handle_quiet hcall hc
          have hc' := (Call.configures_withoutOptions call).trans hc
          refine ⟨⟨call.withoutOptions, ⟨answer.reply, messages⟩, next.quiet⟩ :: plain, ?_, ?_⟩
          · rw [Call.bare, List.filter_cons_of_pos (by simp [hc]), List.map_cons,
              run_cons_eq_ok_iff]
            exact ⟨_, _, plain, hquiet, hplain, rfl⟩
          · unfold Exchange.outward at hsame ⊢
            rw [List.filter_cons_of_pos (by simp [hc']), List.filter_cons_of_pos (by simp [hc]),
              List.map_cons, List.map_cons, hsame, Call.withoutOptions_withoutOptions]
            rfl

theorem traces_handle (h : (server.handle call).outcome = .ok (answer, next)) :
    Exchange.TracesAsAsked server.registry.legend ⟨call, answer, next⟩ := by
  rintro uri rfl hrunning
  have hlegend := (affectsAll_handle h).1
  rcases handle_cases h with ⟨_, hstart, _⟩ | hserve | ⟨houtside, rfl, _⟩
  · cases hstart
  · obtain ⟨buffer, registry, _, hreply, htraced, rfl⟩ := highlight_eq_ok_iff.mp hserve
    refine ⟨buffer, hreply, ?_⟩
    rw [← hlegend]
    exact htraced
  · exact absurd hrunning houtside

theorem traces_run {calls : List Call} {exchanges : List Exchange}
    (h : (server.run calls).outcome = .ok exchanges) :
    ∀ exchange ∈ exchanges, exchange.TracesAsAsked server.registry.legend := by
  induction calls generalizing server exchanges with
  | nil =>
      cases h
      intro exchange hmem
      cases hmem
  | cons call later ih =>
      obtain ⟨answer, next, rest, hcall, hrest, rfl⟩ := run_cons_eq_ok_iff.mp h
      have hlater := ih hrest
      rw [(affectsAll_handle hcall).1] at hlater
      exact List.forall_mem_cons.mpr ⟨traces_handle hcall, hlater⟩

end Server

/-! ## Tracing never stops a session -/

namespace Document

/-- The highlight of a document can be built and printed. -/
structure Printable (document : Document) : Prop where
  /-- The tokens stand in order. -/
  inOrder : Token.InOrder document.tokens
  /-- Their numbers are words. -/
  fits : ∀ token ∈ document.tokens, token.FitsWords
  /-- What can be given without building it decodes. -/
  kept : ∀ buffer, document.cached? = some buffer →
    ∃ entries, Delta.decode buffer.data = .ok entries

theorem printable_updated (document : Document) {text : String} (version : Option Int)
    (hfits : ∀ token ∈ tokenize text.toList, token.FitsWords) :
    (document.updated text version).Printable where
  inOrder := Token.inOrder_tokenize text.toList
  fits := hfits
  kept := by
    intro buffer h
    rw [cached?_updated] at h
    cases h

theorem Printable.exists_highlight {document : Document} (hp : document.Printable) {legend : Legend}
    (hl : legend.modifiers.length ≤ wordBits) :
    ∃ buffer kept entries, (document.highlight legend).outcome = .ok (buffer, kept)
      ∧ Delta.decode buffer.data = .ok entries ∧ kept.Printable := by
  cases hb : document.cached? with
  | some buffer =>
      obtain ⟨entries, hdecode⟩ := hp.kept buffer hb
      exact ⟨buffer, document, entries, highlight_eq_ok_iff.mpr (Or.inl ⟨hb, rfl⟩), hdecode, hp⟩
  | none =>
      obtain ⟨buffer, hbuilt, hdecode⟩ := Buffer.build_decode_of_inOrder hp.inOrder hp.fits hl
        document.lineLengths (some (toString document.revision))
      refine ⟨buffer, document.keeping buffer, _,
        highlight_eq_ok_iff.mpr (Or.inr ⟨hb, hbuilt, rfl⟩), hdecode, hp.inOrder, hp.fits, ?_⟩
      intro found hfound
      rw [eq_of_cached?_keeping hfound]
      exact ⟨_, hdecode⟩

end Document

namespace Server

variable {server next : Server} {call : Call} {answer : Answer}

/-- What decodes can be traced, if that is asked for. -/
theorem exists_traced {buffer : Buffer} {entries : List Entry}
    (h : Delta.decode buffer.data = .ok entries) (legend : Legend) (uri : String)
    (tracing : Bool) : ∃ messages, buffer.Traced legend uri tracing messages := by
  cases tracing with
  | false => exact ⟨[], rfl⟩
  | true =>
      have hdump : Delta.dump legend buffer.data = .ok (Entry.dump legend entries) := by
        rw [Delta.dump, h]
        rfl
      exact ⟨_, _, hdump, rfl⟩

theorem exists_highlight (hl : server.registry.legend.modifiers.length ≤ wordBits)
    (hp : server.registry.All Document.Printable) (uri : String) :
    ∃ answer next, (server.highlight uri).outcome = .ok (answer, next) := by
  have hgiven : ∃ buffer registry entries,
      (server.registry.highlight uri).outcome = .ok (buffer, registry)
        ∧ Delta.decode buffer.data = .ok entries := by
    cases hg : server.registry.get? uri with
    | none =>
        exact ⟨.empty, _, [], Registry.highlight_eq_ok_iff.mpr (Or.inl ⟨hg, rfl, rfl⟩), rfl⟩
    | some document =>
        obtain ⟨buffer, kept, entries, hh, hdecode, _⟩ := (hp uri document hg).exists_highlight hl
        exact ⟨buffer, _, entries,
          Registry.highlight_eq_ok_iff.mpr (Or.inr ⟨document, kept, hg, hh, rfl⟩), hdecode⟩
  obtain ⟨buffer, registry, entries, hh, hdecode⟩ := hgiven
  obtain ⟨messages, htraced⟩ := exists_traced hdecode registry.legend uri
    server.settings.traceSemanticTokens
  exact ⟨⟨.result (.highlight buffer), messages⟩, _,
    highlight_eq_ok_iff.mpr ⟨buffer, registry, hh, rfl, htraced, rfl⟩⟩

theorem exists_serve (hl : server.registry.legend.modifiers.length ≤ wordBits)
    (hp : server.registry.All Document.Printable) (call : Call) :
    ∃ answer next, (server.serve call).outcome = .ok (answer, next) := by
  cases call with
  | highlight uri => exact exists_highlight hl hp uri
  | changeText uri version texts =>
      exact ⟨_, _, Logged.outcome_bind_of_ok (server.change_outcome uri version texts) _⟩
  | configure settings =>
      obtain ⟨_, hs⟩ := server.applySettings_outcome settings
      exact ⟨_, _, Logged.outcome_bind_of_ok hs _⟩
  | _ => exact ⟨_, _, rfl⟩

/-- **Every call is answered**, if all documents can be printed. -/
theorem exists_handle (hl : server.registry.legend.modifiers.length ≤ wordBits)
    (hp : server.registry.All Document.Printable) (call : Call) :
    ∃ answer next, (server.handle call).outcome = .ok (answer, next) := by
  obtain ⟨phase, registry, settings⟩ := server
  cases phase with
  | fresh =>
      cases call with
      | start options =>
          obtain ⟨_, hs⟩ := start_outcome ⟨.fresh, registry, settings⟩ options
          exact ⟨_, _, hs⟩
      | _ => exact ⟨_, _, rfl⟩
  | running => exact exists_serve hl hp call
  | ended => cases call <;> exact ⟨_, _, rfl⟩

theorem allPrintable_handle (hl : server.registry.legend.modifiers.length ≤ wordBits)
    (hp : server.registry.All Document.Printable) (hfits : call.FitsWords)
    (h : (server.handle call).outcome = .ok (answer, next)) :
    next.registry.All Document.Printable := by
  refine (affectsAll_handle h).all hp ?_ ?_
  · intro text hmem document version
    exact document.printable_updated version (hfits text hmem)
  · intro document buffer kept hd hh
    obtain ⟨_, _, _, hh', _, hkept⟩ := hd.exists_highlight hl
    cases hh.symm.trans hh'
    exact hkept

/-- Every session runs to its end. -/
theorem exists_run (hl : server.registry.legend.modifiers.length ≤ wordBits)
    (hp : server.registry.All Document.Printable) {calls : List Call}
    (hfits : ∀ call ∈ calls, call.FitsWords) :
    ∃ exchanges, (server.run calls).outcome = .ok exchanges := by
  induction calls generalizing server with
  | nil => exact ⟨[], rfl⟩
  | cons call later ih =>
      obtain ⟨hcall, hlater⟩ := List.forall_mem_cons.mp hfits
      obtain ⟨answer, next, h⟩ := exists_handle hl hp call
      -- the next server has the same legend, and its documents can be printed too
      have hlegend := (affectsAll_handle h).1
      obtain ⟨rest, hrest⟩ := ih (hlegend ▸ hl) (allPrintable_handle hl hp hcall h) hlater
      exact ⟨_, run_cons_eq_ok_iff.mpr ⟨answer, next, rest, h, hrest, rfl⟩⟩

end Server

open Server

/--
**Settings never show in a reply.**

Let two sessions be called alike when settings are left aside, in whatever environments they run.
As far as they get, the same calls have the same replies, and the same number of documents is open
after each of them. Each highlight is traced if tracing is on at that moment, and otherwise nothing
is sent about it. And both sessions get to their end, with or without tracing, if the numbers of all
tokens are words, as in every text of less than `wordLimit` units.
-/
theorem outward_run_eq_of_bare_eq (legend : Legend) (env₁ env₂ : Environment)
    (calls₁ calls₂ : List Call) (hsame : Call.bare calls₁ = Call.bare calls₂) :
    (∀ first second, ((fresh legend env₁).run calls₁).outcome = .ok first →
        ((fresh legend env₂).run calls₂).outcome = .ok second →
        Exchange.outward first = Exchange.outward second
          ∧ ∀ exchange ∈ first ++ second, exchange.TracesAsAsked legend)
      ∧ (legend.modifiers.length ≤ wordBits → (∀ call ∈ calls₁, call.FitsWords) →
        (∃ first, ((fresh legend env₁).run calls₁).outcome = .ok first
          ∧ first.map Exchange.call = calls₁)
        ∧ ∃ second, ((fresh legend env₂).run calls₂).outcome = .ok second
          ∧ second.map Exchange.call = calls₂) := by
  constructor
  · intro first second hfirst hsecond
    have htraces₁ := traces_run hfirst
    have htraces₂ := traces_run hsecond
    refine ⟨?_, List.forall_mem_append.mpr ⟨htraces₁, htraces₂⟩⟩
    -- with tracing off, both sessions are one
    obtain ⟨plain₁, hplain₁, hout₁⟩ := run_quiet hfirst
    obtain ⟨plain₂, hplain₂, hout₂⟩ := run_quiet hsecond
    have hquiet : (fresh legend env₁).quiet = (fresh legend env₂).quiet := rfl
    rw [hquiet, hsame, hplain₂] at hplain₁
    rw [← hout₁, ← hout₂, Except.ok.inj hplain₁]
  · intro hl hfits₁
    have hfits₂ : ∀ call ∈ calls₂, call.FitsWords := by
      rw [← Call.forall_bare_fitsWords_iff, ← hsame]
      exact Call.forall_bare_fitsWords_iff.mpr hfits₁
    have hends : ∀ env calls, (∀ call ∈ calls, call.FitsWords) →
        ∃ exchanges, ((fresh legend env).run calls).outcome = .ok exchanges
          ∧ exchanges.map Exchange.call = calls := by
      intro env calls hfits
      obtain ⟨exchanges, hrun⟩ : ∃ exchanges, ((fresh legend env).run calls).outcome = .ok exchanges
        := exists_run hl (Registry.all_empty _ legend) hfits
      exact ⟨exchanges, hrun, map_call_of_run hrun⟩
    exact ⟨hends env₁ calls₁ hfits₁, hends env₂ calls₂ hfits₂⟩

/-- The environment turns tracing on in one session; in the other one the client does so, but turns
it off again before it asks for a highlight. -/
theorem outward_run_eq_of_bare_eq_one_traced :
    ∃ first second,
      ((fresh .standard [("NAKO_LSP_TRACE_SEMANTIC", "Yes".toUTF8)]).run
        [.start none, .openText "file:///a" "1" 1, .highlight "file:///a"]).outcome = .ok first
      ∧ ((fresh .standard []).run
        [.start (some (.array [.bool true])), .openText "file:///a" "1" 1,
          .configure (.object [("traceSemanticTokens", .bool false)]),
          .highlight "file:///a"]).outcome = .ok second
      ∧ Exchange.outward first = Exchange.outward second
      ∧ first.map (fun exchange => exchange.answer.messages)
        = [[], [], ["[semantic] file:///a\n[semantic] 1 tokens\n" ++
          "L0:0 len=1 type=number mods=0b00000"]]
      ∧ second.map (fun exchange => exchange.answer.messages) = [[], [], [], []] := by
  have hboth := outward_run_eq_of_bare_eq .standard
    [("NAKO_LSP_TRACE_SEMANTIC", "Yes".toUTF8)] []
    [.start none, .openText "file:///a" "1" 1, .highlight "file:///a"]
    [.start (some (.array [.bool true])), .openText "file:///a" "1" 1,
      .configure (.object [("traceSemanticTokens", .bool false)]), .highlight "file:///a"] rfl
  have hfits : ∀ call ∈ [Call.start none, .openText "file:///a" "1" 1, .highlight "file:///a"],
      call.FitsWords := by
    unfold Call.FitsWords
    decide +kernel
  obtain ⟨⟨first, hfirst, _⟩, second, hsecond, _⟩ := hboth.2 (by decide) hfits
  have hmessages₁ : ((fresh .standard [("NAKO_LSP_TRACE_SEMANTIC", "Yes".toUTF8)]).run
      [.start none, .openText "file:///a" "1" 1, .highlight "file:///a"]).outcome.map
        (fun exchanges => exchanges.map (fun exchange => exchange.answer.messages))
      = .ok [[], [], ["[semantic] file:///a\n[semantic] 1 tokens\n" ++
        "L0:0 len=1 type=number mods=0b00000"]] := by decide +kernel
  have hmessages₂ : ((fresh .standard []).run
      [.start (some (.array [.bool true])), .openText "file:///a" "1" 1,
        .configure (.object [("traceSemanticTokens", .bool false)]),
        .highlight "file:///a"]).outcome.map
        (fun exchanges => exchanges.map (fun exchange => exchange.answer.messages))
      = .ok [[], [], [], []] := by decide +kernel
  rw [hfirst] at hmessages₁
  rw [hsecond] at hmessages₂
  exact ⟨first, second, hfirst, hsecond, (hboth.1 first second hfirst hsecond).1,
    Except.ok.inj hmessages₁, Except.ok.inj hmessages₂⟩

end Nadesiko
