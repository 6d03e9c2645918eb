import Mathlib
import Nadesiko.Server.Basic

/-!
# Sessions

A session is one call after another. Calls differ in many ways, but there is little that a call can
do to a document: give it a new text, take it away, or make it keep its highlight. `Affects` says
once what can happen to the document of a URI, and `affectsAll_handle` that nothing else ever does,
in whatever phase the server is. What holds of all documents in all sessions follows from it by
looking at these few cases.
-/

namespace Nadesiko

/-- A computation has a value exactly if its parts have values. -/
theorem Logged.outcome_bind_eq_ok_iff {α β : Type} {x : Logged α} {f : α → Logged β} {b : β} :
    (x >>= f).outcome = .ok b ↔ ∃ a, x.outcome = .ok a ∧ (f a).outcome = .ok b := by
  cases h : x.outcome with
  | error cause =>
      have hstop : (x >>= f).outcome = .error cause := by
        rw [Logged.bind_eq, Logged.andThen, h]
      simp [hstop]
  | ok a => simp [Logged.outcome_bind_of_ok h]

/-- The texts that a call gives to a document. -/
def Call.texts : Call → List String
  | openText _ text _ => [text]
  | changeText _ _ texts => texts.getLast?.toList
  | _ => []

/-- One call of a session: what was called, how it was answered, and the server afterwards. -/
structure Exchange where
  /-- The call. -/
  call : Call
  /-- The answer. -/
  answer : Answer
  /-- The server after the call. -/
  after : Server

namespace Server

/-- One call after another. -/
def run (server : Server) : List Call → Logged (List Exchange)
  | [] => return []
  | call :: later => do
    let (answer, next) ← server.handle call
    let exchanges ← next.run later
    return ⟨call, answer, next⟩ :: exchanges

theorem run_cons_eq_ok_iff {server : Server} {call : Call} {later : List Call}
    {exchanges : List Exchange} :
    (server.run (call :: later)).outcome = .ok exchanges
      ↔ ∃ answer next rest, (server.handle call).outcome = .ok (answer, next)
        ∧ (next.run later).outcome = .ok rest ∧ exchanges = ⟨call, answer, next⟩ :: rest := by
  rw [run, Logged.outcome_bind_eq_ok_iff]
  constructor
  · rintro ⟨⟨answer, next⟩, hcall, hlater⟩
    obtain ⟨rest, hrest, hdone⟩ := Logged.outcome_bind_eq_ok_iff.mp hlater
    exact ⟨answer, next, rest, hcall, hrest, (Except.ok.inj hdone).symm⟩
  · rintro ⟨answer, next, rest, hcall, hrest, rfl⟩
    exact ⟨(answer, next), hcall, Logged.outcome_bind_eq_ok_iff.mpr ⟨rest, hrest, rfl⟩⟩

/-- A session has an exchange for each call. -/
theorem map_call_of_run {server : Server} {calls : List Call} {exchanges : List Exchange}
    (h : (server.run calls).outcome = .ok exchanges) : exchanges.map Exchange.call = calls := by
  induction calls generalizing server exchanges with
  | nil =>
      cases h
      rfl
  | cons call later ih =>
      obtain ⟨answer, next, rest, _, hrest, rfl⟩ := run_cons_eq_ok_iff.mp h
      rw [List.map_cons, ih hrest]

end Server

/-! ## Documents -/

namespace Document

/-- The document with a new text. -/
def updated (document : Document) (text : String) (version : Option Int) : Document :=
  { document with
    version, tokens := tokenize text.toList, lineLengths := Text.lineLengths text.toList
    valid := false, revision := document.revision + 1 }

/-- What was highlighted before is not given for a new text. -/
@[simp] theorem cached?_updated (document : Document) (text : String) (version : Option Int) :
    (document.updated text version).cached? = none := rfl

/-- The document that has just been highlighted. -/
def keeping (document : Document) (buffer : Buffer) : Document :=
  { document with buffer := some buffer, valid := true }

@[simp] theorem cached?_keeping (document : Document) (buffer : Buffer) :
    (document.keeping buffer).cached? = some buffer := rfl

theorem eq_of_cached?_keeping {document : Document} {buffer found : Buffer}
    (h : (document.keeping buffer).cached? = some found) : found = buffer := by
  rw [cached?_keeping] at h
  exact (Option.some.inj h).symm

/-- A highlight is the last one while that is valid, or else it is built and kept from then on. -/
theorem highlight_eq_ok_iff {document kept : Document} {legend : Legend} {buffer : Buffer} :
    (document.highlight legend).outcome = .ok (buffer, kept)
      ↔ (document.cached? = some buffer ∧ kept = document)
        ∨ (document.cached? = none
          ∧ (Buffer.build document.tokens document.lineLengths legend
            (some (toString document.revision))).outcome = .ok buffer
          ∧ kept = document.keeping buffer) := by
  unfold highlight
  cases hc : document.cached? with
  | some found =>
      constructor
      · intro h
        cases h
        exact Or.inl ⟨rfl, rfl⟩
      · rintro (⟨hfound, rfl⟩ | ⟨hnone, _⟩)
        · rw [Option.some.inj hfound]
          rfl
        · cases hnone
  | none =>
      simp only [Logged.outcome_bind_eq_ok_iff]
      constructor
      · rintro ⟨built, hbuilt, _, _, hdone⟩
        cases hdone
        exact Or.inr ⟨trivial, hbuilt, rfl⟩
      · rintro (⟨hfound, _⟩ | ⟨_, hbuilt, rfl⟩)
        · cases hfound
        · exact ⟨buffer, hbuilt, (), rfl, rfl⟩

end Document

namespace Registry

/-- Every open document has a property. -/
def All (P : Document → Prop) (registry : Registry) : Prop :=
  ∀ uri document, registry.get? uri = some document → P document

theorem all_empty (P : Document → Prop) (legend : Legend) : (empty legend).All P := by
  intro uri document h
  rw [get?_empty] at h
  cases h

variable {registry next : Registry} {uri : String}

theorem updateText_outcome_eq (registry : Registry) (uri text : String) (version : Option Int) :
    (registry.updateText uri text version).outcome
      = .ok (registry.insert uri
        (((registry.get? uri).getD .empty).updated text version)) := by
  unfold updateText
  cases registry.get? uri with
  | none => rfl
  | some document => rfl

/-- A highlight is that of the document, which may keep it, and empty if there is no document. -/
theorem highlight_eq_ok_iff {buffer : Buffer} :
    (registry.highlight uri).outcome = .ok (buffer, next)
      ↔ (registry.get? uri = none ∧ buffer = .empty ∧ next = registry)
        ∨ ∃ document kept, registry.get? uri = some document
          ∧ (document.highlight registry.legend).outcome = .ok (buffer, kept)
          ∧ next = registry.insert uri kept := by
  unfold highlight highlight?
  cases hg : registry.get? uri with
  | none =>
      constructor
      · intro h
        cases h
        exact Or.inl ⟨rfl, rfl, rfl⟩
      · rintro (⟨_, rfl, rfl⟩ | ⟨_, _, hsome, _⟩)
        · rfl
        · cases hsome
  | some document =>
      simp only [Logged.outcome_bind_eq_ok_iff]
      constructor
      · rintro ⟨_, ⟨⟨found, kept⟩, hh, hfound⟩, hdone⟩
        cases hfound
        cases hdone
        exact Or.inr ⟨document, kept, rfl, hh, rfl⟩
      · rintro (⟨hnone, _⟩ | ⟨_, kept, hsome, hh, rfl⟩)
        · cases hnone
        · cases hsome
          exact ⟨_, ⟨(buffer, kept), hh, rfl⟩, rfl⟩

end Registry

/-! ## Highlights and their traces -/

/-- What is sent to the client's log about a highlight: all of it in readable form if tracing is on,
and otherwise nothing. -/
def Buffer.Traced (buffer : Buffer) (legend : Legend) (uri : String) (tracing : Bool)
    (messages : List String) : Prop :=
  match tracing with
  | true => ∃ dump, Delta.dump legend buffer.data = .ok dump
      ∧ messages = [s!"[semantic] {uri}\n{dump}"]
  | false => messages = []

namespace Server

variable {server next : Server} {call : Call} {answer : Answer} {uri : String}

theorem highlight_eq_ok_iff :
    (server.highlight uri).outcome = .ok (answer, next)
      ↔ ∃ buffer registry, (server.registry.highlight uri).outcome = .ok (buffer, registry)
        ∧ answer.reply = .result (.highlight buffer)
        ∧ buffer.Traced registry.legend uri server.settings.traceSemanticTokens answer.messages
        ∧ next = { server with registry := registry } := by
  unfold highlight Buffer.Traced
  -- tracing adds one step that can fail, after the registry has done its work
  cases server.settings.traceSemanticTokens with
  | false =>
      simp only [Bool.false_eq_true, if_false, Logged.outcome_bind_eq_ok_iff]
      constructor
      · rintro ⟨_, _, ⟨buffer, registry⟩, hh, _, hnone, hdone⟩
        cases hnone
        cases hdone
        exact ⟨buffer, registry, hh, rfl, rfl, rfl⟩
      · rintro ⟨buffer, registry, hh, hreply, hmessages, rfl⟩
        obtain ⟨reply, messages⟩ := answer
        cases hreply
        cases hmessages
        exact ⟨(), rfl, (buffer, registry), hh, [], rfl, rfl⟩
  | true =>
      simp only [if_true, Logged.outcome_bind_eq_ok_iff]
      constructor
      · rintro ⟨_, _, ⟨buffer, registry⟩, hh, dump, hdump, _, hsome, hdone⟩
        cases hsome
        cases hdone
        exact ⟨buffer, registry, hh, rfl, ⟨dump, hdump, rfl⟩, rfl⟩
      · rintro ⟨buffer, registry, hh, hreply, ⟨dump, hdump, hmessages⟩, rfl⟩
        obtain ⟨reply, messages⟩ := answer
        cases hreply
        cases hmessages
        exact ⟨(), rfl, (buffer, registry), hh, dump, hdump, _, rfl, rfl⟩

/-- A call starts the session, is answered during the session, or comes outside of it and does
nothing. -/
theorem handle_cases (h : (server.handle call).outcome = .ok (answer, next)) :
    (∃ options, call = .start options ∧ (server.start options).outcome = .ok (answer, next))
      ∨ (server.serve call).outcome = .ok (answer, next)
      ∨ server.phase ≠ .running ∧ next = server
        ∧ ∃ refusal, answer = if call.isRequest then .ofRefusal refusal else .silence := by
  unfold handle at h
  split at h
  · next options _ => exact Or.inl ⟨options, rfl, h⟩
  · next hphase _ =>
      cases h
      exact Or.inr (Or.inr ⟨by rw [hphase]; decide, rfl, _, rfl⟩)
  · exact Or.inr (Or.inl h)
  · next hphase =>
      cases h
      exact Or.inr (Or.inr ⟨by rw [hphase]; decide, rfl, _, rfl⟩)

/-! ## What a call does to a document -/

/-- What a call can do to the document of a URI, if there is one. A call that comes before or after
the session does nothing, and so does one about another document. -/
inductive Affects (legend : Legend) (uri : String) :
    Call → Option Document → Option Document → Prop where
  | nothing (call : Call) (found : Option Document) : Affects legend uri call found found
  | opened (text : String) (version : Int) (found : Option Document) :
      Affects legend uri (.openText uri text version) found
        (some (Document.empty.updated text version))
  | changed (version : Int) {texts : List String} {text : String}
      (hlast : texts.getLast? = some text) (found : Option Document) :
      Affects legend uri (.changeText uri version texts) found
        (some ((found.getD .empty).updated text version))
  | closed (found : Option Document) : Affects legend uri (.close uri) found none
  | highlighted {document kept : Document} {buffer : Buffer}
      (hkept : (document.highlight legend).outcome = .ok (buffer, kept)) :
      Affects legend uri (.highlight uri) (some document) (some kept)

/-- What is inserted under one URI affects that document and no other. -/
theorem affects_insert {legend : Legend} {registry : Registry} {document : Document}
    (haffects : Affects legend uri call (registry.get? uri) (some document)) (other : String) :
    Affects legend other call (registry.get? other)
      ((registry.insert uri document).get? other) := by
  rw [Registry.get?_insert]
  by_cases huri : uri = other
  · rw [if_pos huri, ← huri]
    exact haffects
  · rw [if_neg huri]
    exact .nothing ..

/-- What a call does to all documents. The legend never changes. -/
def AffectsAll (call : Call) (before after : Registry) : Prop :=
  after.legend = before.legend
    ∧ ∀ uri, Affects before.legend uri call (before.get? uri) (after.get? uri)

theorem affectsAll_refl (call : Call) (registry : Registry) : AffectsAll call registry registry :=
  ⟨rfl, fun _ => .nothing ..⟩

/-- Settings are applied or refused, and nothing else changes. -/
theorem applySettings_outcome (server : Server) (value : Json) :
    ∃ settings, (server.applySettings value).outcome
      = .ok { server with settings := settings } := by
  unfold applySettings
  cases server.settings.apply value with
  | mk outcome settings =>
      refine ⟨settings, ?_⟩
      cases outcome with
      | ok _ => rfl
      | error fault => rfl

theorem start_outcome (server : Server) (options : Option Json) :
    ∃ settings, (server.start options).outcome
      = .ok (.ofResult (.started server.registry.legend),
        { server with phase := .running, settings := settings }) := by
  cases options with
  | none => exact ⟨server.settings, rfl⟩
  | some value =>
      obtain ⟨settings, hs⟩ := server.applySettings_outcome value
      refine ⟨settings, ?_⟩
      rw [start, Logged.outcome_bind_of_ok rfl]
      exact Logged.outcome_bind_of_ok hs _

/-- A document takes the last of its new texts. -/
theorem change_outcome (server : Server) (uri : String) (version : Int) (texts : List String) :
    (server.change uri version texts).outcome
      = .ok { server with registry :=
          match texts.getLast? with
          | none => server.registry
          | some text => server.registry.insert uri
              (((server.registry.get? uri).getD .empty).updated text version) } := by
  rw [change, Logged.outcome_bind_of_ok rfl]
  cases texts.getLast? with
  | none => rfl
  | some text => exact Logged.outcome_bind_of_ok (Registry.updateText_outcome_eq ..) _

theorem affectsAll_serve (h : (server.serve call).outcome = .ok (answer, next)) :
    AffectsAll call server.registry next.registry := by
  cases call with
  | openText uri text version =>
      cases h
      exact ⟨rfl, affects_insert (.opened text version _)⟩
  | changeText uri version texts =>
      cases (Logged.outcome_bind_of_ok (server.change_outcome uri version texts) _).symm.trans h
      dsimp only
      cases htext : texts.getLast? with
      | none => exact affectsAll_refl ..
      | some text => exact ⟨rfl, affects_insert (.changed version htext _)⟩
  | close uri =>
      cases h
      refine ⟨rfl, ?_⟩
      intro other
      dsimp only
      rw [Registry.get?_erase]
      by_cases huri : uri = other
      · rw [if_pos huri, huri]
        exact .closed _
      · rw [if_neg huri]
        exact .nothing ..
  | configure settings =>
      obtain ⟨_, hs⟩ := server.applySettings_outcome settings
      cases (Logged.outcome_bind_of_ok hs _).symm.trans h
      exact affectsAll_refl ..
  | highlight uri =>
      obtain ⟨buffer, registry, hh, _, _, rfl⟩ := highlight_eq_ok_iff.mp h
      rcases Registry.highlight_eq_ok_iff.mp hh with ⟨_, _, rfl⟩ | ⟨document, kept, hg, hk, rfl⟩
      · exact affectsAll_refl ..
      · refine ⟨rfl, affects_insert ?_⟩
        rw [hg]
        exact .highlighted hk
  | _ =>
      cases h
      exact affectsAll_refl ..

/-- **A call does nothing to a document but this**, in whatever phase the server is. -/
theorem affectsAll_handle (h : (server.handle call).outcome = .ok (answer, next)) :
    AffectsAll call server.registry next.registry := by
  rcases handle_cases h with ⟨options, rfl, hstart⟩ | hserve | ⟨_, rfl, _⟩
  · obtain ⟨_, hs⟩ := server.start_outcome options
    cases hs.symm.trans hstart
    exact affectsAll_refl ..
  · exact affectsAll_serve hserve
  · exact affectsAll_refl ..

/-- **What holds of new texts and survives being highlighted holds of all documents.** -/
theorem AffectsAll.all {P : Document → Prop} {before after : Registry}
    (h : AffectsAll call before after) (hall : before.All P)
    (hupdated : ∀ text ∈ call.texts, ∀ document version, P (Document.updated document text version))
    (hkept : ∀ document buffer kept, P document →
      (document.highlight before.legend).outcome = .ok (buffer, kept) → P kept) :
    after.All P := by
  intro uri document hafter
  have haffects := h.2 uri
  rw [hafter] at haffects
  generalize hbefore : before.get? uri = found at haffects
  cases haffects with
  | nothing => exact hall uri document hbefore
  | opened text version => exact hupdated text (List.mem_singleton_self text) _ _
  | changed version hlast =>
      refine hupdated _ ?_ _ _
      rw [Call.texts, hlast]
      exact List.mem_singleton_self _
  | highlighted hh => exact hkept _ _ _ (hall uri _ hbefore) hh

end Server

end Nadesiko
