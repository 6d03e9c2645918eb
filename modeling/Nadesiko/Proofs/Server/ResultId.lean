import Mathlib
import Nadesiko.Proofs.Server.Session

/-!
# What the name of a highlight stands for

A highlight is named by the revision of its document. Each change of an open document raises the
revision, so as long as a document stays open, a name that comes back stands for a highlight that
was kept: `Document.Recalls` says that a document either has that very highlight or is past it, and
every call keeps it so.

A document that is opened counts from one again. Nothing is remembered of what was there before
under the same URI, so the same name may then stand for another highlight.
-/

namespace Nadesiko

theorem Buffer.resultId_of_build {tokens : List Token} {lineLengths : List Nat} {legend : Legend}
    {resultId : Option String} {buffer : Buffer}
    (h : (Buffer.build tokens lineLengths legend resultId).outcome = .ok buffer) :
    buffer.resultId = resultId := by
  obtain ⟨entries, _, hdone⟩ := Logged.outcome_bind_eq_ok_iff.mp h
  cases hdone
  rfl

namespace Document

variable {document kept : Document} {legend : Legend} {buffer : Buffer} {revision : Nat}

/-- What a document can give without building it is named by the document's revision. -/
def Named (document : Document) : Prop :=
  ∀ buffer, document.cached? = some buffer → buffer.resultId = some (toString document.revision)

theorem named_updated (document : Document) (text : String) (version : Option Int) :
    (document.updated text version).Named := by
  intro buffer h
  rw [cached?_updated] at h
  cases h

/-- A highlight is kept as it was given, under the revision of the document. -/
theorem Named.of_highlight (hn : document.Named)
    (h : (document.highlight legend).outcome = .ok (buffer, kept)) :
    kept.Named ∧ kept.cached? = some buffer ∧ kept.revision = document.revision := by
  rcases highlight_eq_ok_iff.mp h with ⟨hb, rfl⟩ | ⟨_, hbuilt, rfl⟩
  · exact ⟨hn, hb, rfl⟩
  · refine ⟨?_, cached?_keeping .., rfl⟩
    intro found hfound
    rw [eq_of_cached?_keeping hfound]
    exact Buffer.resultId_of_build hbuilt

/-- A document still has a highlight that was given at some revision, or it has been changed since
then. -/
def Recalls (revision : Nat) (buffer : Buffer) (document : Document) : Prop :=
  (document.revision = revision ∧ document.cached? = some buffer) ∨ revision < document.revision

theorem Recalls.updated (h : document.Recalls revision buffer) (text : String)
    (version : Option Int) : (document.updated text version).Recalls revision buffer := by
  right
  dsimp only [Document.updated]
  rcases h with ⟨heq, _⟩ | hlt
  · omega
  · omega

theorem Recalls.of_highlight {found : Buffer} (h : document.Recalls revision buffer)
    (hh : (document.highlight legend).outcome = .ok (found, kept)) :
    kept.Recalls revision buffer := by
  rcases highlight_eq_ok_iff.mp hh with ⟨_, rfl⟩ | ⟨hnone, _, rfl⟩
  · exact h
  · -- what is built now cannot be what is recalled, so the document is past it
    rcases h with ⟨_, hsome⟩ | hlt
    · rw [hnone] at hsome
      cases hsome
    · exact Or.inr hlt

/-- A highlight under a name that is recalled is the one that was given under it. -/
theorem Recalls.eq_of_resultId {found : Buffer} (h : document.Recalls revision buffer)
    (hn : document.Named) (hh : (document.highlight legend).outcome = .ok (found, kept))
    (hid : found.resultId = some (toString revision)) : found = buffer := by
  obtain ⟨hkept, hfound, hsame⟩ := hn.of_highlight hh
  have hname := hkept found hfound
  rw [hid, Option.some.injEq, Nat.toString_eq_repr, Nat.toString_eq_repr, Nat.repr_inj,
    hsame] at hname
  rcases h with ⟨_, hb⟩ | hlt
  · rcases highlight_eq_ok_iff.mp hh with ⟨hb', _⟩ | ⟨hnone, _⟩
    · rw [hb] at hb'
      exact (Option.some.inj hb').symm
    · rw [hb] at hnone
      cases hnone
  · omega

end Document

/-- Whether a call opens or closes the document of a URI. -/
def Call.resets (uri : String) : Call → Bool
  | openText other .. | close other => other == uri
  | _ => false

/-- The highlight of a document that was given in an exchange. -/
def Exchange.highlight? (uri : String) (exchange : Exchange) : Option Buffer :=
  match exchange.call, exchange.answer.reply with
  | .highlight other, .result (.highlight buffer) => if other = uri then some buffer else none
  | _, _ => none

namespace Server

variable {server next : Server} {call : Call} {answer : Answer} {uri : String} {buffer : Buffer}
  {revision : Nat}

theorem allNamed_handle (hn : server.registry.All Document.Named)
    (h : (server.handle call).outcome = .ok (answer, next)) :
    next.registry.All Document.Named := by
  refine (affectsAll_handle h).all hn ?_ ?_
  · intro text _ document version
    exact Document.named_updated document text version
  · intro document found kept hd hh
    exact (hd.of_highlight hh).1

/-- What is given for a document comes from the registry. -/
theorem registry_highlight_of_highlight? (h : (server.handle call).outcome = .ok (answer, next))
    (hgiven : Exchange.highlight? uri ⟨call, answer, next⟩ = some buffer) :
    (server.registry.highlight uri).outcome = .ok (buffer, next.registry) := by
  obtain ⟨reply, messages⟩ := answer
  unfold Exchange.highlight? at hgiven
  split at hgiven
  · next other found hcall hreply =>
      dsimp only at hcall hreply
      obtain ⟨huri, hfound⟩ := Option.ite_none_right_eq_some.mp hgiven
      cases hfound
      subst hcall hreply huri
      rcases handle_cases h with ⟨_, hstart, _⟩ | hserve | ⟨_, _, _, hrefused⟩
      · cases hstart
      · obtain ⟨given, registry, hh, hsame, _, rfl⟩ := highlight_eq_ok_iff.mp hserve
        cases hsame
        exact hh
      · cases hrefused
  · cases hgiven

/-- A highlight without a name is the empty one. One with a name is kept under it. -/
theorem given_of_highlight? (hn : server.registry.All Document.Named)
    (h : (server.handle call).outcome = .ok (answer, next))
    (hgiven : Exchange.highlight? uri ⟨call, answer, next⟩ = some buffer) :
    buffer = .empty ∨ ∃ document, next.registry.get? uri = some document
      ∧ document.cached? = some buffer ∧ buffer.resultId = some (toString document.revision) := by
  have hh := registry_highlight_of_highlight? h hgiven
  rcases Registry.highlight_eq_ok_iff.mp hh with ⟨_, hempty, _⟩ | ⟨document, kept, hg, hk, hnext⟩
  · exact Or.inl hempty
  · obtain ⟨hkept, hbuffer, _⟩ := (hn uri document hg).of_highlight hk
    refine Or.inr ⟨kept, ?_, hbuffer, hkept buffer hbuffer⟩
    rw [hnext, Registry.get?_insert, if_pos rfl]

/-- The document of a URI is there and recalls a highlight. -/
def Recalls (server : Server) (uri : String) (revision : Nat) (buffer : Buffer) : Prop :=
  ∃ document, server.registry.get? uri = some document ∧ document.Recalls revision buffer

/-- Only opening and closing make a document forget. -/
theorem Recalls.handle (hr : server.Recalls uri revision buffer)
    (h : (server.handle call).outcome = .ok (answer, next)) (hc : call.resets uri = false) :
    next.Recalls uri revision buffer := by
  obtain ⟨document, hg, hd⟩ := hr
  have haffects := (affectsAll_handle h).2 uri
  unfold Recalls
  generalize next.registry.get? uri = after at haffects ⊢
  rw [hg] at haffects
  cases haffects with
  | nothing => exact ⟨document, rfl, hd⟩
  | opened | closed => simp [Call.resets] at hc
  | changed version hlast => exact ⟨_, rfl, hd.updated _ _⟩
  | highlighted hh => exact ⟨_, rfl, hd.of_highlight hh⟩

/-! ## Whole sessions -/

/-- A highlight without a name is empty, in every session. -/
theorem eq_empty_of_resultId {calls : List Call} {exchanges : List Exchange}
    (hn : server.registry.All Document.Named) (h : (server.run calls).outcome = .ok exchanges)
    {exchange : Exchange} (hmem : exchange ∈ exchanges)
    (hgiven : exchange.highlight? uri = some buffer) (hid : buffer.resultId = none) :
    buffer = .empty := by
  induction calls generalizing server exchanges with
  | nil =>
      cases h
      cases hmem
  | cons call later ih =>
      obtain ⟨answer, next, rest, hcall, hrest, rfl⟩ := run_cons_eq_ok_iff.mp h
      rcases List.mem_cons.mp hmem with rfl | hmem
      · rcases given_of_highlight? hn hcall hgiven with hempty | ⟨_, _, _, hname⟩
        · exact hempty
        · rw [hid] at hname
          cases hname
      · exact ih (allNamed_handle hn hcall) hrest hmem

/-- As long as a document is neither opened nor closed, a name that is recalled stands for the same
highlight. -/
theorem Recalls.eq_of_run {calls : List Call} {exchanges : List Exchange}
    (hr : server.Recalls uri revision buffer) (hn : server.registry.All Document.Named)
    (h : (server.run calls).outcome = .ok exchanges) {j : Nat} {found : Buffer}
    (hj : exchanges[j]?.bind (Exchange.highlight? uri) = some found)
    (hkept : ∀ call ∈ calls.take j, call.resets uri = false)
    (hid : found.resultId = some (toString revision)) : found = buffer := by
  induction calls generalizing server exchanges j with
  | nil =>
      cases h
      cases hj
  | cons call later ih =>
      obtain ⟨answer, next, rest, hcall, hrest, rfl⟩ := run_cons_eq_ok_iff.mp h
      cases j with
      | zero =>
          obtain ⟨document, hg, hd⟩ := hr
          have hh := registry_highlight_of_highlight? hcall hj
          rcases Registry.highlight_eq_ok_iff.mp hh with ⟨hnone, _⟩ | ⟨other, kept, hg', hk, _⟩
          · rw [hg] at hnone
            cases hnone
          · cases hg.symm.trans hg'
            exact hd.eq_of_resultId (hn uri document hg) hk hid
      | succ j =>
          rw [List.take_succ_cons, List.forall_mem_cons] at hkept
          exact ih (hr.handle hcall hkept.1) (allNamed_handle hn hcall) hrest hj hkept.2

/-- Two highlights of a document that share a name are the same, unless the document was opened or
closed between them. -/
theorem highlight?_eq_of_run {calls : List Call} {exchanges : List Exchange}
    (hn : server.registry.All Document.Named) (h : (server.run calls).outcome = .ok exchanges)
    {i j : Nat} (hij : i < j) {given found : Buffer}
    (hi : exchanges[i]?.bind (Exchange.highlight? uri) = some given)
    (hj : exchanges[j]?.bind (Exchange.highlight? uri) = some found)
    (hkept : ∀ call ∈ (calls.take j).drop (i + 1), call.resets uri = false)
    (hid : given.resultId = found.resultId) : given = found := by
  induction calls generalizing server exchanges i j with
  | nil =>
      cases h
      cases hi
  | cons call later ih =>
      obtain ⟨answer, next, rest, hcall, hrest, rfl⟩ := run_cons_eq_ok_iff.mp h
      have hnext := allNamed_handle hn hcall
      obtain ⟨j, rfl⟩ : ∃ later, j = later + 1 := ⟨j - 1, by omega⟩
      rw [List.getElem?_cons_succ] at hj
      rw [List.take_succ_cons, List.drop_succ_cons] at hkept
      cases i with
      | succ i => exact ih hnext hrest (Nat.lt_of_succ_lt_succ hij) hi hj hkept
      | zero =>
          rcases given_of_highlight? hn hcall hi with rfl | ⟨document, hg, hb, hname⟩
          · obtain ⟨second, hsecond, hfound⟩ := Option.bind_eq_some_iff.mp hj
            have hmem := List.mem_of_getElem? hsecond
            exact (eq_empty_of_resultId hnext hrest hmem hfound hid.symm).symm
          · -- from here on the document recalls the first highlight
            have hr : next.Recalls uri document.revision given :=
              ⟨document, hg, Or.inl ⟨rfl, hb⟩⟩
            exact (hr.eq_of_run hnext hrest hj hkept (hid.symm.trans hname)).symm

/-- The highlights of a document that a session gives, call by call. -/
def highlights (server : Server) (uri : String) (calls : List Call) :
    Except Overflow (List (Option Buffer)) :=
  (server.run calls).outcome.map (fun exchanges => exchanges.map (Exchange.highlight? uri))

theorem exists_run_of_highlights {calls : List Call} {given : List (Option Buffer)}
    (h : server.highlights uri calls = .ok given) :
    ∃ exchanges, (server.run calls).outcome = .ok exchanges
      ∧ ∀ (i : Nat) (found : Buffer), given[i]? = some (some found) →
        exchanges[i]?.bind (Exchange.highlight? uri) = some found := by
  unfold highlights at h
  cases hrun : (server.run calls).outcome with
  | error cause =>
      rw [hrun] at h
      cases h
  | ok exchanges =>
      rw [hrun] at h
      refine ⟨exchanges, rfl, ?_⟩
      intro i found hi
      rw [← Except.ok.inj h, List.getElem?_map, Option.map_eq_some_iff] at hi
      obtain ⟨exchange, hexchange, hfound⟩ := hi
      rw [hexchange]
      exact hfound

end Server

open Server

/--
**As long as a document is neither opened nor closed, the name of a highlight stands for one
highlight.**

Whatever else happens in the session, two highlights of the document that carry the same name have
the same entries.
-/
theorem data_eq_of_resultId_eq (legend : Legend) (env : Environment) {calls : List Call}
    {exchanges : List Exchange} (h : ((fresh legend env).run calls).outcome = .ok exchanges)
    {uri : String} {i j : Nat} (hij : i < j) {given found : Buffer}
    (hi : exchanges[i]?.bind (Exchange.highlight? uri) = some given)
    (hj : exchanges[j]?.bind (Exchange.highlight? uri) = some found)
    (hid : given.resultId = found.resultId)
    (hkept : ∀ call ∈ (calls.take j).drop (i + 1), call.resets uri = false) :
    given.data = found.data := by
  have hn : (fresh legend env).registry.All Document.Named := Registry.all_empty _ legend
  rw [highlight?_eq_of_run hn h hij hi hj hkept hid]

/-- Another document is opened, changed and closed between two highlights of the same name, and the
document itself gets a change that holds no text. -/
theorem data_eq_of_resultId_eq_other_changes :
    ∃ exchanges given found,
      ((fresh .standard []).run [.start none, .openText "file:///a" "1" 1, .highlight "file:///a",
          .openText "file:///b" "「1」" 1, .changeText "file:///a" 2 [],
          .changeText "file:///b" 2 ["", "1"], .close "file:///b",
          .highlight "file:///a"]).outcome = .ok exchanges
        ∧ exchanges[2]?.bind (Exchange.highlight? "file:///a") = some given
        ∧ exchanges[7]?.bind (Exchange.highlight? "file:///a") = some found
        ∧ given.resultId = some "1" ∧ found.resultId = some "1" ∧ given.data = found.data := by
  have hgiven : (fresh .standard []).highlights "file:///a"
      [.start none, .openText "file:///a" "1" 1, .highlight "file:///a",
        .openText "file:///b" "「1」" 1, .changeText "file:///a" 2 [],
        .changeText "file:///b" 2 ["", "1"], .close "file:///b", .highlight "file:///a"]
      = .ok [none, none, some ⟨some "1", [⟨0, 0, 1, 4, 0⟩]⟩, none, none, none, none,
        some ⟨some "1", [⟨0, 0, 1, 4, 0⟩]⟩] := by decide +kernel
  obtain ⟨exchanges, hrun, hall⟩ := exists_run_of_highlights hgiven
  have hi := hall 2 _ rfl
  have hj := hall 7 _ rfl
  exact ⟨exchanges, _, _, hrun, hi, hj, rfl, rfl,
    data_eq_of_resultId_eq .standard [] hrun (by decide) hi hj rfl (by decide)⟩

/-- Opened once more with another text, a document gives another highlight under the same name. -/
theorem data_ne_after_reopening :
    ∃ exchanges given found,
      ((fresh .standard []).run [.start none, .openText "file:///a" "1" 1, .highlight "file:///a",
          .openText "file:///a" "「1」" 2, .highlight "file:///a"]).outcome = .ok exchanges
        ∧ exchanges[2]?.bind (Exchange.highlight? "file:///a") = some given
        ∧ exchanges[4]?.bind (Exchange.highlight? "file:///a") = some found
        ∧ given.resultId = some "1" ∧ found.resultId = some "1" ∧ given.data ≠ found.data := by
  have hgiven : (fresh .standard []).highlights "file:///a"
      [.start none, .openText "file:///a" "1" 1, .highlight "file:///a",
        .openText "file:///a" "「1」" 2, .highlight "file:///a"]
      = .ok [none, none, some ⟨some "1", [⟨0, 0, 1, 4, 0⟩]⟩, none,
        some ⟨some "1", [⟨0, 0, 3, 3, 0⟩]⟩] := by decide +kernel
  obtain ⟨exchanges, hrun, hall⟩ := exists_run_of_highlights hgiven
  exact ⟨exchanges, _, _, hrun, hall 2 _ rfl, hall 4 _ rfl, rfl, rfl, by decide⟩

end Nadesiko
