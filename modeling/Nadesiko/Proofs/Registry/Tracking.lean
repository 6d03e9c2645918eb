import Mathlib
import Nadesiko.Proofs.Highlight.Representable
import Nadesiko.Proofs.Registry.History

/-!
# A registry answers by the history of the document alone

A registry keeps tokens, line lengths, a count and perhaps a highlight for each document, and a
history says what these should be. `Tracks` ties the two together, document by document. The part
that matters is the highlight. Nothing is said of one that is stale, which may well be that of an
earlier text; one that is valid is the one that would be built now, from the text, the legend and
the count that the history tells. An update keeps the old highlight, but marks it as stale in the
step that brings the new text and raises the count. So the tie is never loose: what is stale is not
given, and what is given from the store is as good as new.

Since `Tracks` speaks about each document by its own history, it also says that documents do not
disturb each other.
-/

namespace Nadesiko.Registry

open Text

variable {legend : Legend} {past : List Operation} {registry : Registry}

/-- A document holds what is known of it, and its highlight is up to date if it is valid. -/
structure Holds (legend : Legend) (document : Document) (known : Snapshot) : Prop where
  /-- The version is that of the last text. -/
  version : document.version = known.version
  /-- The tokens are those of the last text. -/
  tokens : document.tokens = known.tokens
  /-- The line lengths are those of the last text. -/
  lengths : document.lineLengths = lineLengths known.text.toList
  /-- The count is that of the texts since the document was opened. -/
  revision : document.revision = known.revision
  /-- A highlight that is valid is the one that would be built. -/
  fresh : document.valid = true → ∀ buffer, document.buffer = some buffer →
    known.highlight legend = .ok buffer

/-- A registry holds exactly the documents that are open, and what is known of them. -/
structure Tracks (legend : Legend) (past : List Operation) (registry : Registry) : Prop where
  /-- The legend never changes. -/
  legend_eq : registry.legend = legend
  /-- Each document is held as its own history says. -/
  documents : ∀ uri, Option.Rel (Holds legend) (registry.get? uri) (Snapshot.of? uri past)

/-- Either a document is not open and nothing is known of it, or it is held as it is known. -/
theorem Tracks.held (ht : Tracks legend past registry) (uri : String) :
    (registry.get? uri = none ∧ Snapshot.of? uri past = none)
      ∨ ∃ document known, registry.get? uri = some document
        ∧ Snapshot.of? uri past = some known ∧ Holds legend document known := by
  have hrel := ht.documents uri
  cases hg : registry.get? uri with
  | none =>
      cases hs : Snapshot.of? uri past with
      | none => exact Or.inl ⟨rfl, rfl⟩
      | some known => rw [hg, hs] at hrel; cases hrel
  | some document =>
      cases hs : Snapshot.of? uri past with
      | none => rw [hg, hs] at hrel; cases hrel
      | some known =>
          rw [hg, hs, Option.rel_some_some] at hrel
          exact Or.inr ⟨document, known, rfl, rfl, hrel⟩

/-- What can be told from a document can be told from what is known of it. -/
theorem Tracks.bind_get? (ht : Tracks legend past registry) (uri : String) {α : Type}
    {f : Document → Option α} {g : Snapshot → Option α}
    (hfg : ∀ document known, Holds legend document known → f document = g known) :
    (registry.get? uri).bind f = (Snapshot.of? uri past).bind g := by
  rcases ht.held uri with ⟨hg, hs⟩ | ⟨document, known, hg, hs, hd⟩
  · rw [hg, hs]
    rfl
  · rw [hg, hs]
    exact hfg document known hd

theorem Tracks.isSome_get? (ht : Tracks legend past registry) (uri : String) :
    (registry.get? uri).isSome = (Snapshot.of? uri past).isSome := by
  rcases ht.held uri with ⟨hg, hs⟩ | ⟨document, known, hg, hs, _⟩
  · rw [hg, hs]
    rfl
  · rw [hg, hs]
    rfl

theorem contains_eq_isSome_get? (registry : Registry) (uri : String) :
    registry.contains uri = (registry.get? uri).isSome :=
  Std.TreeMap.contains_eq_isSome_getElem?

theorem Tracks.contains_eq (ht : Tracks legend past registry) (uri : String) :
    registry.contains uri = (Snapshot.of? uri past).isSome := by
  rw [contains_eq_isSome_get?, ht.isSome_get?]

theorem tracks_empty (legend : Legend) : Tracks legend [] (empty legend) where
  legend_eq := rfl
  documents := by
    intro uri
    rw [get?_empty]
    exact Option.Rel.none

/-! ## Documents -/

theorem update_outcome (legend : Legend) (document : Document) (text : String)
    (version : Option Int) :
    ∃ next, (document.update text version).outcome = .ok next
      ∧ Holds legend next ⟨text, version, document.revision + 1⟩ := by
  -- the old highlight is still there, so the tie rests on the mark alone
  refine ⟨_, rfl, rfl, rfl, rfl, rfl, ?_⟩
  intro hvalid
  cases hvalid

/-- **What a document answers is what would be built**, whether it gives what is valid or builds it
now. -/
theorem highlight_outcome (hl : legend.modifiers.length ≤ wordBits)
    {document : Document} {known : Snapshot} (hd : Holds legend document known) :
    ∃ buffer next, (document.highlight legend).outcome = .ok (buffer, next)
      ∧ known.highlight legend = .ok buffer ∧ Holds legend next known := by
  unfold Document.highlight
  cases hc : document.cached? with
  | some buffer =>
      obtain ⟨hvalid, hbuffer⟩ := Document.cached?_eq_some_iff.mp hc
      exact ⟨buffer, document, rfl, hd.fresh hvalid buffer hbuffer, hd⟩
  | none =>
      -- nothing is valid: what is built now is built from the very parts that are known
      obtain ⟨buffer, hbuild⟩ := Buffer.build_outcome_ok hl document.tokens document.lineLengths
        (some (toString document.revision))
      have hknown : known.highlight legend = .ok buffer := by
        rw [Snapshot.highlight, ← hd.tokens, ← hd.lengths, ← hd.revision]
        exact hbuild
      refine ⟨buffer, { document with buffer := some buffer, valid := true }, ?_, hknown, ?_⟩
      · exact (Logged.outcome_bind_of_ok hbuild _).trans (Logged.outcome_bind_of_ok rfl _)
      · refine ⟨hd.version, hd.tokens, hd.lengths, hd.revision, ?_⟩
        intro _ given hgiven
        rw [← Option.some.inj hgiven]
        exact hknown

/-! ## Changes of the registry -/

theorem tracks_insert (ht : Tracks legend past registry) (op : Operation) {document : Document}
    {known : Snapshot}
    (hknown : Snapshot.of? op.uri (past ++ [op]) = some known)
    (hd : Holds legend document known) :
    Tracks legend (past ++ [op]) (registry.insert op.uri document) where
  legend_eq := ht.legend_eq
  documents := by
    intro uri
    rw [get?_insert]
    by_cases huri : op.uri = uri
    · rw [if_pos huri, ← huri, hknown]
      exact Option.Rel.some hd
    · rw [if_neg huri, Snapshot.of?_concat_of_ne past huri]
      exact ht.documents uri

theorem tracks_erase (ht : Tracks legend past registry) (op : Operation) (hc : op.closes = true) :
    Tracks legend (past ++ [op]) (registry.erase op.uri) where
  legend_eq := ht.legend_eq
  documents := by
    intro uri
    rw [get?_erase]
    by_cases huri : op.uri = uri
    · rw [if_pos huri, ← huri, Snapshot.of?_concat_of_closes past hc]
      exact Option.Rel.none
    · rw [if_neg huri, Snapshot.of?_concat_of_ne past huri]
      exact ht.documents uri

theorem tracks_read (ht : Tracks legend past registry) (op : Operation) (hc : op.closes = false)
    (hw : op.write? = none) : Tracks legend (past ++ [op]) registry where
  legend_eq := ht.legend_eq
  documents := by
    intro uri
    by_cases huri : op.uri = uri
    · rw [← huri, Snapshot.of?_concat_of_read past op hc hw]
      exact ht.documents op.uri
    · rw [Snapshot.of?_concat_of_ne past huri]
      exact ht.documents uri

/-! ## One operation -/

/-- What one operation does: it says what is expected, and keeps track of everything. -/
def Performs (legend : Legend) (past : List Operation) (registry : Registry) (op : Operation) :
    Prop :=
  ∃ response next, (registry.perform op).outcome = .ok (response, next)
    ∧ expected legend (Snapshot.of? op.uri past) op = .ok response
    ∧ Tracks legend (past ++ [op]) next

theorem openText_outcome (legend : Legend) (registry : Registry) (uri text : String)
    (version : Option Int) :
    ∃ document, (registry.openText uri text version).outcome = .ok (registry.insert uri document)
      ∧ Holds legend document ⟨text, version, 1⟩ := by
  obtain ⟨document, hu, hd⟩ := update_outcome legend Document.empty text version
  exact ⟨document, (Logged.outcome_bind_of_ok rfl _).trans (Logged.outcome_bind_of_ok hu _), hd⟩

theorem performs_openText (ht : Tracks legend past registry) (uri text : String)
    (version : Option Int) :
    Performs legend past registry (.openText uri text version) := by
  obtain ⟨document, ho, hd⟩ := openText_outcome legend registry uri text version
  refine ⟨.done, _, Logged.outcome_bind_of_ok ho _, rfl, ?_⟩
  exact tracks_insert ht (.openText uri text version)
    (Snapshot.of?_concat_of_write past _ rfl rfl) hd

theorem performs_updateText (ht : Tracks legend past registry) (uri text : String)
    (version : Option Int) :
    Performs legend past registry (.updateText uri text version) := by
  have hknown := Snapshot.of?_concat_of_write past (.updateText uri text version) rfl rfl
  have hdone : ∀ document, (registry.updateText uri text version).outcome
        = .ok (registry.insert uri document) →
      Holds legend document
        ⟨text, version, ((Snapshot.of? uri past).map Snapshot.revision).getD 0 + 1⟩ →
      Performs legend past registry (.updateText uri text version) := by
    intro document hup hd
    exact ⟨.done, _, Logged.outcome_bind_of_ok hup _, rfl, tracks_insert ht _ hknown hd⟩
  rcases ht.held uri with ⟨hg, hs⟩ | ⟨document, known, hg, hs, hd⟩
  · -- the document is not open, so the update opens it
    obtain ⟨document, ho, hd⟩ := openText_outcome legend registry uri text version
    refine hdone document ?_ (by simpa [hs] using hd)
    rw [updateText, hg]
    exact (Logged.outcome_bind_of_ok rfl _).trans ho
  · -- the document counts on from what it held
    obtain ⟨next, hu, hn⟩ := update_outcome legend document text version
    refine hdone next ?_ (by simpa [hs, hd.revision] using hn)
    rw [updateText, hg]
    exact (Logged.outcome_bind_of_ok rfl _).trans (Logged.outcome_bind_of_ok hu _)

theorem performs_close (ht : Tracks legend past registry) (uri : String) :
    Performs legend past registry (.close uri) := by
  refine ⟨.open? (registry.contains uri), registry.erase uri, rfl, ?_, tracks_erase ht _ rfl⟩
  rw [ht.contains_eq]
  rfl

theorem performs_contains (ht : Tracks legend past registry) (uri : String) :
    Performs legend past registry (.contains uri) := by
  refine ⟨.open? (registry.contains uri), registry, rfl, ?_, tracks_read ht _ rfl rfl⟩
  rw [ht.contains_eq]
  rfl

/-- What the registry finds to highlight, with the document that may have kept it. -/
theorem highlight?_outcome (hl : legend.modifiers.length ≤ wordBits)
    (ht : Tracks legend past registry)
    (uri : String) :
    (Snapshot.of? uri past = none
        ∧ (registry.highlight? uri).outcome = .ok (none, registry))
      ∨ ∃ known buffer document, Snapshot.of? uri past = some known
        ∧ known.highlight legend = .ok buffer ∧ Holds legend document known
        ∧ (registry.highlight? uri).outcome
          = .ok (some buffer, registry.insert uri document) := by
  rcases ht.held uri with ⟨hg, hs⟩ | ⟨document, known, hg, hs, hd⟩
  · refine Or.inl ⟨hs, ?_⟩
    rw [highlight?, hg]
    rfl
  · obtain ⟨buffer, next, ho, hb, hn⟩ := highlight_outcome hl hd
    refine Or.inr ⟨known, buffer, next, hs, hb, hn, ?_⟩
    rw [highlight?, hg, ht.legend_eq]
    exact Logged.outcome_bind_of_ok ho _

theorem performs_highlight? (hl : legend.modifiers.length ≤ wordBits)
    (ht : Tracks legend past registry)
    (uri : String) : Performs legend past registry (.highlight? uri) := by
  have hread := Snapshot.of?_concat_of_read past (.highlight? uri) rfl rfl
  rcases highlight?_outcome hl ht uri with ⟨hs, ho⟩ | ⟨known, buffer, document, hs, hb, hd, ho⟩
  · refine ⟨.buffer? none, registry, Logged.outcome_bind_of_ok ho _, ?_, tracks_read ht _ rfl rfl⟩
    simp only [expected, Operation.uri, hs]
  · refine ⟨.buffer? (some buffer), _, Logged.outcome_bind_of_ok ho _, ?_,
      tracks_insert ht _ (hread.trans hs) hd⟩
    simp only [expected, Operation.uri, hs, hb, Except.map]

theorem performs_highlight (hl : legend.modifiers.length ≤ wordBits)
    (ht : Tracks legend past registry)
    (uri : String) : Performs legend past registry (.highlight uri) := by
  have hread := Snapshot.of?_concat_of_read past (.highlight uri) rfl rfl
  rcases highlight?_outcome hl ht uri with ⟨hs, ho⟩ | ⟨known, buffer, document, hs, hb, hd, ho⟩
  · have hh : (registry.highlight uri).outcome = .ok (Buffer.empty, registry) :=
      (Logged.outcome_bind_of_ok ho _).trans (Logged.outcome_bind_of_ok rfl _)
    refine ⟨.buffer Buffer.empty, registry, Logged.outcome_bind_of_ok hh _, ?_,
      tracks_read ht _ rfl rfl⟩
    simp only [expected, Operation.uri, hs]
    rfl
  · have hh : (registry.highlight uri).outcome = .ok (buffer, registry.insert uri document) :=
      Logged.outcome_bind_of_ok ho _
    refine ⟨.buffer buffer, _, Logged.outcome_bind_of_ok hh _, ?_,
      tracks_insert ht _ (hread.trans hs) hd⟩
    simp only [expected, Operation.uri, hs, hb, Except.map]

theorem performs_tokenAt? (ht : Tracks legend past registry) (uri : String) (p : Position) :
    Performs legend past registry (.tokenAt? uri p) := by
  refine ⟨.token? (registry.tokenAt? uri p), registry, rfl, ?_, tracks_read ht _ rfl rfl⟩
  rw [tokenAt?, ht.bind_get? uri (fun document known hd => by rw [Document.tokenAt?, hd.tokens])]
  rfl

theorem performs_spanAt? (ht : Tracks legend past registry) (uri : String) (p : Position) :
    Performs legend past registry (.spanAt? uri p) := by
  refine ⟨.span? (registry.spanAt? uri p), registry, rfl, ?_, tracks_read ht _ rfl rfl⟩
  rw [spanAt?, ht.bind_get? uri (fun document known hd => by rw [Document.spanAt?, hd.tokens])]
  rfl

/-- **Every operation says what is expected and keeps track of everything.** -/
theorem tracks_step (hl : legend.modifiers.length ≤ wordBits)
    (ht : Tracks legend past registry)
    (op : Operation) : Performs legend past registry op := by
  cases op with
  | openText uri text version => exact performs_openText ht uri text version
  | updateText uri text version => exact performs_updateText ht uri text version
  | close uri => exact performs_close ht uri
  | contains uri => exact performs_contains ht uri
  | highlight? uri => exact performs_highlight? hl ht uri
  | highlight uri => exact performs_highlight hl ht uri
  | tokenAt? uri p => exact performs_tokenAt? ht uri p
  | spanAt? uri p => exact performs_spanAt? ht uri p

/-! ## Whole runs -/

/-- Everything that is said during a run is what the operations before it lead to expect. -/
def Answers (legend : Legend) (past ops : List Operation) (responses : List Response) : Prop :=
  responses.length = ops.length
    ∧ ∀ i op response, ops[i]? = some op → responses[i]? = some response →
      expected legend (Snapshot.of? op.uri (past ++ ops.take i)) op = .ok response

theorem answers_cons {later : List Operation} {op : Operation} {response : Response}
    {responses : List Response}
    (hop : expected legend (Snapshot.of? op.uri past) op = .ok response)
    (hlater : Answers legend (past ++ [op]) later responses) :
    Answers legend past (op :: later) (response :: responses) := by
  obtain ⟨hlen, hall⟩ := hlater
  refine ⟨by simp [hlen], ?_⟩
  intro i op' response' ho hr
  cases i with
  | zero =>
      rw [List.getElem?_cons_zero] at ho hr
      rw [← Option.some.inj ho, ← Option.some.inj hr]
      simpa using hop
  | succ i =>
      rw [List.getElem?_cons_succ] at ho hr
      simpa using hall i op' response' ho hr

/-- A run from a registry that keeps track says what is expected and still keeps track. -/
theorem tracks_run (hl : legend.modifiers.length ≤ wordBits) (ops : List Operation)
    (ht : Tracks legend past registry) :
    ∃ responses next, (registry.run ops).outcome = .ok (responses, next)
      ∧ Answers legend past ops responses ∧ Tracks legend (past ++ ops) next := by
  induction ops generalizing past registry with
  | nil =>
      refine ⟨[], registry, rfl, ⟨rfl, ?_⟩, by simpa using ht⟩
      intro i op response ho
      simp at ho
  | cons op later ih =>
      -- the operation joins the past, and the rest of the run is judged by the longer past
      obtain ⟨response, middle, ho, hexp, hm⟩ := tracks_step hl ht op
      obtain ⟨responses, next, hr, hall, hn⟩ := ih hm
      refine ⟨response :: responses, next, ?_, answers_cons hexp hall, by simpa using hn⟩
      rw [run]
      exact (Logged.outcome_bind_of_ok ho _).trans (Logged.outcome_bind_of_ok hr _)

/-! ## How many documents are open -/

theorem nodup_keys (registry : Registry) : registry.documents.keys.Nodup := by
  refine registry.documents.distinct_keys.imp ?_
  intro uri other hne heq
  exact hne (by rw [heq]; exact Std.ReflCmp.compare_self)

theorem mem_keys_iff (registry : Registry) (uri : String) :
    uri ∈ registry.documents.keys ↔ (registry.get? uri).isSome = true := by
  rw [← contains_eq_isSome_get?, Std.TreeMap.mem_keys, Std.TreeMap.mem_iff_contains]
  rfl

theorem size_of_tracks (ht : Tracks legend past registry) :
    registry.size = (openUris past).length := by
  have hperm : registry.documents.keys.Perm (openUris past) := by
    -- two lists without repetition that have the same members
    have hnodup : (openUris past).Nodup := (List.nodup_dedup _).filter _
    rw [List.perm_ext_iff_of_nodup registry.nodup_keys hnodup]
    intro uri
    rw [mem_keys_iff, ht.isSome_get?, openUris, List.mem_filter, List.mem_dedup]
    exact ⟨fun h => ⟨Snapshot.mem_uris_of_isSome h, h⟩, fun h => h.2⟩
  rw [size, ← Std.TreeMap.length_keys, hperm.length_eq]

/--
**Whatever a registry is asked, in whatever order, it answers by the history of the document
alone.**

No run stops. Each answer is the one that the earlier operations on the same document lead to
expect; in particular a highlight is always the one that its last text would be given anew. At the
end the versions are those of the last texts, and the size is the number of documents that are open.
-/
theorem run_follows_history (hl : legend.modifiers.length ≤ wordBits) (ops : List Operation) :
    ∃ responses registry, ((empty legend).run ops).outcome = .ok (responses, registry)
      ∧ responses.length = ops.length
      ∧ (∀ i op response, ops[i]? = some op → responses[i]? = some response →
          expected legend (Snapshot.of? op.uri (ops.take i)) op = .ok response)
      ∧ (∀ uri, (registry.get? uri).map Document.version
          = (Snapshot.of? uri ops).map Snapshot.version)
      ∧ registry.size = (openUris ops).length := by
  obtain ⟨responses, registry, ho, ⟨hlen, hall⟩, ht⟩ := tracks_run hl ops (tracks_empty legend)
  refine ⟨responses, registry, ho, hlen, hall, ?_, size_of_tracks ht⟩
  intro uri
  rw [List.nil_append] at ht
  rw [Option.map_eq_bind, Option.map_eq_bind]
  exact ht.bind_get? uri (fun document known hd => congrArg some hd.version)

/-- A document is highlighted as a string, written again, and highlighted as the number that it is
now. Closed and written once more, it has its last version. -/
theorem run_follows_history_reopened :
    Legend.standard.modifiers.length ≤ wordBits
      ∧ ∃ responses registry,
        ((empty Legend.standard).run [.updateText "a" "「1」" none, .highlight? "a",
            .updateText "a" "2" (some 2), .highlight? "a", .openText "b" "" none, .close "a",
            .updateText "a" "3" (some 9), .highlight? "a"]).outcome = .ok (responses, registry)
          ∧ responses[3]? = some (.buffer? (some ⟨some "2", [⟨0, 0, 1, 4, 0⟩]⟩))
          ∧ (registry.get? "a").map Document.version = some (some 9)
          ∧ registry.size = 2 := by
  have hl : Legend.standard.modifiers.length ≤ wordBits := by decide
  obtain ⟨responses, registry, ho, hlen, hall, hversion, hsize⟩ := run_follows_history hl
    [.updateText "a" "「1」" none, .highlight? "a", .updateText "a" "2" (some 2), .highlight? "a",
      .openText "b" "" none, .close "a", .updateText "a" "3" (some 9), .highlight? "a"]
  refine ⟨hl, responses, registry, ho, ?_, (hversion "a").trans (by decide),
    hsize.trans (by decide)⟩
  obtain ⟨response, hr⟩ : ∃ response, responses[3]? = some response :=
    ⟨_, List.getElem?_eq_getElem (by simp [hlen])⟩
  have hexp := hall 3 _ response rfl hr
  have hfound : expected Legend.standard (some ⟨"2", some 2, 2⟩) (.highlight? "a")
      = .ok (.buffer? (some ⟨some "2", [⟨0, 0, 1, 4, 0⟩]⟩)) := by decide +kernel
  rw [hr, Except.ok.inj (hexp.symm.trans hfound)]

end Nadesiko.Registry
