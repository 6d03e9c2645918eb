import Nadesiko.Highlight.Delta
import Nadesiko.Highlight.Segment
import Nadesiko.Logged

/-!
# Highlight buffers

The buffer of a text holds the relative entries of its tokens. Each token that is highlighted and
that the legend can express contributes its segments; every other token is recorded and left out
without disturbing its neighbours.
-/

namespace Nadesiko

/-- The highlight of a text, as it travels to a client. -/
structure Buffer where
  /-- The name by which the client may refer to this buffer. -/
  resultId : Option String
  /-- The relative entries. -/
  data : List Delta
deriving DecidableEq

namespace Buffer

/-- The buffer of nothing. -/
def empty : Buffer := ⟨none, []⟩

end Buffer

/-- The entries of a token with a given index and given bits. -/
def Token.entriesWith (token : Token) (excludeParticle : Bool) (lineLengths : List Nat)
    (category modifiers : Nat) : List Entry :=
  (token.segments excludeParticle lineLengths).map
    (fun segment => ⟨segment.start, segment.length, category, modifiers⟩)

/-- The entries of a token. -/
def Token.entries (token : Token) (lineLengths : List Nat) (legend : Legend) :
    Logged (List Entry) :=
  match token.kind.classification? with
  | none => ⟨[.unclassified token.kind], .ok []⟩
  | some c =>
    match legend.encode c with
    | .ok (category, modifiers) =>
      pure (token.entriesWith (token.kind.excludesParticle c) lineLengths category modifiers)
    | .error (.unrepresentable _) => .overflow .shift
    | .error fault => ⟨[.skipped token fault], .ok []⟩

namespace Entry

/-- The events that entries cause by standing before their predecessor. -/
def disorder (previous : Position) (entries : List Entry) : List Event :=
  (misplaced previous entries).map (fun (start, before) => .misplaced start before)

/-- The entries of a list of tokens, the first one being compared with a previous position. -/
def ofTokens (lineLengths : List Nat) (legend : Legend) (previous : Position) :
    List Token → Logged (List Entry)
  | [] => pure []
  | token :: later => do
    let entries ← token.entries lineLengths legend
    Logged.record (disorder previous entries)
    let others ← ofTokens lineLengths legend (lastStart previous entries) later
    return entries ++ others

end Entry

namespace Buffer

/-- The buffer of a list of entries. -/
def ofEntries (resultId : Option String) (entries : List Entry) : Logged Buffer :=
  ⟨Entry.disorder .zero entries, .ok ⟨resultId, Entry.encode entries⟩⟩

/-- The buffer of a list of tokens. -/
def build (tokens : List Token) (lineLengths : List Nat) (legend : Legend)
    (resultId : Option String) : Logged Buffer := do
  let entries ← Entry.ofTokens lineLengths legend .zero tokens
  return ⟨resultId, Entry.encode entries⟩

end Buffer

end Nadesiko
