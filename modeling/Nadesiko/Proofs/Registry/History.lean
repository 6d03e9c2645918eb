import Mathlib
import Nadesiko.Registry

/-!
# What a history says about a document

A registry is used by one operation after another. What it should answer about a document can be
read off the operations on that document alone, without looking at any registry: they say whether
the document is open, which text and version it has, and how often it has been written since it was
opened.

A write opens a document in two ways. An opening always does, and starts the count anew; an update
does so only when the document is not open, which is when it is the first write since the last
closing. So the count is one more than the number of updates after the last opening, where the first
write since the last closing counts as an opening whatever it is.
-/

namespace Nadesiko.Registry

open Text

/-- What can be asked of a registry. -/
inductive Operation where
  | openText (uri text : String) (version : Option Int)
  | updateText (uri text : String) (version : Option Int)
  | close (uri : String)
  | contains (uri : String)
  /-- Asks for a highlight, which a document that is not open has not. -/
  | highlight? (uri : String)
  /-- Asks for a highlight, which is empty for a document that is not open. -/
  | highlight (uri : String)
  | tokenAt? (uri : String) (p : Position)
  | spanAt? (uri : String) (p : Position)

/-- What a registry says to an operation. -/
inductive Response where
  /-- Nothing is said to a new text. -/
  | done
  | open? (found : Bool)
  | buffer? (found : Option Buffer)
  | buffer (found : Buffer)
  | token? (found : Option Token)
  | span? (found : Option Span)
deriving DecidableEq

/-- One operation on a registry. -/
def perform (registry : Registry) : Operation → Logged (Response × Registry)
  | .openText uri text version => return (.done, ← registry.openText uri text version)
  | .updateText uri text version => return (.done, ← registry.updateText uri text version)
  | .close uri => do
    let (found, registry) ← registry.close uri
    return (.open? found, registry)
  | .contains uri => return (.open? (registry.contains uri), registry)
  | .highlight? uri => do
    let (found, registry) ← registry.highlight? uri
    return (.buffer? found, registry)
  | .highlight uri => do
    let (found, registry) ← registry.highlight uri
    return (.buffer found, registry)
  | .tokenAt? uri p => return (.token? (registry.tokenAt? uri p), registry)
  | .spanAt? uri p => return (.span? (registry.spanAt? uri p), registry)

/-- One operation after another, with all that is said. -/
def run (registry : Registry) : List Operation → Logged (List Response × Registry)
  | [] => return ([], registry)
  | op :: later => do
    let (response, registry) ← registry.perform op
    let (responses, registry) ← registry.run later
    return (response :: responses, registry)

/-- A text that a document was given. -/
structure Write where
  /-- Whether the document was opened with it. -/
  opens : Bool
  /-- The text. -/
  text : String
  /-- The client's version of it. -/
  version : Option Int
deriving DecidableEq

namespace Operation

/-- The document that an operation is about. -/
def uri : Operation → String
  | openText uri .. | updateText uri .. | close uri | contains uri | highlight? uri | highlight uri
  | tokenAt? uri _ | spanAt? uri _ => uri

/-- Whether an operation closes its document. -/
def closes : Operation → Bool
  | close _ => true
  | _ => false

/-- The text that an operation gives to its document. -/
def write? : Operation → Option Write
  | openText _ text version => some ⟨true, text, version⟩
  | updateText _ text version => some ⟨false, text, version⟩
  | _ => none

end Operation

/-- The texts that a document was given since it was last closed, in order. -/
def writes (uri : String) (past : List Operation) : List Write :=
  ((past.filter (·.uri == uri)).rtakeWhile (!·.closes)).filterMap Operation.write?

/-- What is known of an open document. -/
structure Snapshot where
  /-- Its text. -/
  text : String
  /-- The client's version of the text. -/
  version : Option Int
  /-- The number of texts it had since it was opened. -/
  revision : Nat
deriving DecidableEq

namespace Snapshot

/-- What the texts since the last closing leave behind. -/
def ofWrites : List Write → Option Snapshot
  | [] => none
  | first :: later =>
    let last := later.getLastD first
    some ⟨last.text, last.version, 1 + (later.rtakeWhile (!·.opens)).length⟩

/-- What the past says of a document: nothing if it is not open. -/
def of? (uri : String) (past : List Operation) : Option Snapshot := ofWrites (writes uri past)

/-- The tokens of the text. -/
def tokens (snapshot : Snapshot) : List Token := tokenize snapshot.text.toList

/-- The highlight of the text, made from nothing but the text, the legend and the count. -/
def highlight (snapshot : Snapshot) (legend : Legend) : Except Overflow Buffer :=
  (Buffer.build snapshot.tokens (lineLengths snapshot.text.toList) legend
    (some (toString snapshot.revision))).outcome

end Snapshot

/-- What should be said to an operation on a document of which `known` is known. -/
def expected (legend : Legend) (known : Option Snapshot) : Operation → Except Overflow Response
  | .openText .. | .updateText .. => .ok .done
  | .close _ | .contains _ => .ok (.open? known.isSome)
  | .highlight? _ =>
    match known with
    | none => .ok (.buffer? none)
    | some snapshot => (snapshot.highlight legend).map (fun buffer => .buffer? (some buffer))
  | .highlight _ =>
    match known with
    | none => .ok (.buffer ⟨none, []⟩)
    | some snapshot => (snapshot.highlight legend).map .buffer
  | .tokenAt? _ p => .ok (.token? (known.bind (fun snapshot => Token.at? snapshot.tokens p)))
  | .spanAt? _ p => .ok (.span? (known.bind (fun snapshot => Token.spanAt? snapshot.tokens p)))

/-- The documents that are open after the past, each once. -/
def openUris (past : List Operation) : List String :=
  (past.map Operation.uri).dedup.filter (fun uri => (Snapshot.of? uri past).isSome)

/-! ## What one more operation changes -/

namespace Snapshot

/-- One more text is the one that counts, and raises the count unless it opens the document. -/
theorem ofWrites_concat (earlier : List Write) (w : Write) :
    ofWrites (earlier ++ [w])
      = some ⟨w.text, w.version,
          if w.opens then 1 else ((ofWrites earlier).map revision).getD 0 + 1⟩ := by
  cases earlier with
  | nil => cases hw : w.opens <;> simp [ofWrites]
  | cons first later =>
      -- the first write opens the document anyway, so only the later ones are looked at
      simp only [List.cons_append, ofWrites, List.getLastD_concat, List.rtakeWhile_concat]
      cases hw : w.opens with
      | true => simp
      | false => simp [Nat.add_assoc]

/-- Operations on other documents say nothing about this one. -/
theorem of?_concat_of_ne (past : List Operation) {op : Operation} {uri : String}
    (h : op.uri ≠ uri) : of? uri (past ++ [op]) = of? uri past := by
  simp [of?, writes, h]

theorem of?_concat_of_closes (past : List Operation) {op : Operation} (h : op.closes = true) :
    of? op.uri (past ++ [op]) = none := by
  simp [of?, writes, h, ofWrites]

theorem of?_concat_of_read (past : List Operation) (op : Operation) (hc : op.closes = false)
    (hw : op.write? = none) : of? op.uri (past ++ [op]) = of? op.uri past := by
  simp [of?, writes, hc, hw]

theorem of?_concat_of_write (past : List Operation) (op : Operation) {w : Write}
    (hc : op.closes = false) (hw : op.write? = some w) :
    of? op.uri (past ++ [op])
      = some ⟨w.text, w.version,
          if w.opens then 1 else ((of? op.uri past).map revision).getD 0 + 1⟩ := by
  have hwrites : writes op.uri (past ++ [op]) = writes op.uri past ++ [w] := by
    simp [writes, hc, hw]
  rw [of?, hwrites, ofWrites_concat, of?]

/-- Only documents that the past is about can be open. -/
theorem mem_uris_of_isSome {uri : String} {past : List Operation}
    (h : (of? uri past).isSome = true) : uri ∈ past.map Operation.uri := by
  by_contra hmem
  have hnone : past.filter (·.uri == uri) = [] := by
    rw [List.filter_eq_nil_iff]
    intro op hop heq
    exact hmem (List.mem_map.mpr ⟨op, hop, beq_iff_eq.mp heq⟩)
  simp [of?, writes, hnone, ofWrites] at h

end Snapshot

end Nadesiko.Registry
