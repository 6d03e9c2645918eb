import Std.Data.TreeMap
import Nadesiko.Document

/-!
# The open documents

Documents are known by their URI. Opening a document replaces an open one of the same URI, updating
one that is not open opens it, and asking about one that is not open has no answer.
-/

namespace Nadesiko

/-- The open documents and the legend that their highlights are written with. -/
structure Registry where
  /-- The open documents by URI. -/
  documents : Std.TreeMap String Document
  /-- The legend of all highlights. -/
  legend : Legend

namespace Registry

/-- A registry without documents. -/
def empty (legend : Legend) : Registry := ⟨∅, legend⟩

/-- The document of a URI. -/
def get? (registry : Registry) (uri : String) : Option Document := registry.documents[uri]?

/-- Whether a document is open. -/
def contains (registry : Registry) (uri : String) : Bool := registry.documents.contains uri

/-- The number of open documents. -/
def size (registry : Registry) : Nat := registry.documents.size

/-- Whether no document is open. -/
def isEmpty (registry : Registry) : Bool := registry.documents.isEmpty

/-- The registry with a document under a URI. -/
def insert (registry : Registry) (uri : String) (document : Document) : Registry :=
  { registry with documents := registry.documents.insert uri document }

@[simp] theorem get?_empty (legend : Legend) (uri : String) : (empty legend).get? uri = none := by
  simp [empty, get?]

@[simp] theorem legend_insert (registry : Registry) (uri : String) (document : Document) :
    (registry.insert uri document).legend = registry.legend := rfl

theorem get?_insert (registry : Registry) (uri other : String) (document : Document) :
    (registry.insert uri document).get? other
      = if uri = other then some document else registry.get? other := by
  simp [insert, get?, Std.TreeMap.getElem?_insert]

/-- The registry without the document of a URI. -/
def erase (registry : Registry) (uri : String) : Registry :=
  { registry with documents := registry.documents.erase uri }

@[simp] theorem legend_erase (registry : Registry) (uri : String) :
    (registry.erase uri).legend = registry.legend := rfl

theorem get?_erase (registry : Registry) (uri other : String) :
    (registry.erase uri).get? other = if uri = other then none else registry.get? other := by
  simp [erase, get?, Std.TreeMap.getElem?_erase]

/-- Opens a document. -/
def openText (registry : Registry) (uri text : String) (version : Option Int) :
    Logged Registry := do
  Logged.record [.opening uri]
  let document ← Document.empty.update text version
  return registry.insert uri document

/-- Replaces the text of a document. -/
def updateText (registry : Registry) (uri text : String) (version : Option Int) :
    Logged Registry :=
  match registry.get? uri with
  | some document => do
    Logged.record [.updating uri]
    return registry.insert uri (← document.update text version)
  | none => do
    Logged.record [.updatingUnopened uri]
    registry.openText uri text version

/-- Closes a document and says whether it was open. -/
def close (registry : Registry) (uri : String) : Logged (Bool × Registry) := do
  Logged.record [.closing uri]
  return (registry.contains uri, registry.erase uri)

/-- The highlight of a document, if it is open. -/
def highlight? (registry : Registry) (uri : String) : Logged (Option Buffer × Registry) :=
  match registry.get? uri with
  | none => return (none, registry)
  | some document => do
    let (buffer, document) ← document.highlight registry.legend
    return (some buffer, registry.insert uri document)

/-- The highlight of a document; one that is not open has an empty highlight. -/
def highlight (registry : Registry) (uri : String) : Logged (Buffer × Registry) := do
  match ← registry.highlight? uri with
  | (some buffer, registry) => return (buffer, registry)
  | (none, registry) =>
    Logged.record [.highlightUnopened uri]
    return (.empty, registry)

/-- The token at a position of a document. -/
def tokenAt? (registry : Registry) (uri : String) (p : Position) : Option Token :=
  (registry.get? uri).bind (·.tokenAt? p)

/-- The stretch to highlight for a position of a document. -/
def spanAt? (registry : Registry) (uri : String) (p : Position) : Option Span :=
  (registry.get? uri).bind (·.spanAt? p)

/-- What is shown at a position of a document. -/
def hoverAt? (registry : Registry) (uri : String) (p : Position) : Option Hover :=
  (registry.get? uri).bind (·.hoverAt? p)

end Registry

end Nadesiko
