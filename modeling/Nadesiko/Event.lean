import Nadesiko.Highlight.Legend
import Nadesiko.Settings
import Nadesiko.Token.Basic

/-!
# Events

What the program does on the way to an answer is recorded as events. Each event has a level and a
message, and a log keeps the events up to a level.
-/

namespace Nadesiko

/-- How much attention an event needs. -/
inductive Level where
  | warn
  | info
  | debug
  | trace
deriving DecidableEq

namespace Level

/-- The name of a level in a log. -/
def name : Level → String
  | warn => "WARN"
  | info => "INFO"
  | debug => "DEBUG"
  | trace => "TRACE"

/-- How detailed a level is. -/
def detail : Level → Nat
  | warn => 0
  | info => 1
  | debug => 2
  | trace => 3

end Level

/-- Something worth recording. -/
inductive Event where
  /-- A token's kind is not highlighted. -/
  | unclassified (kind : Kind)
  /-- A token cannot be written with the legend and is left out. -/
  | skipped (token : Token) (fault : Legend.Fault)
  /-- An entry stands before its predecessor. -/
  | misplaced (start previous : Position)
  /-- A document has a new text. -/
  | tokenized (revision tokenCount : Nat)
  /-- A document's highlight has been computed. -/
  | highlighted (entryCount revision : Nat)
  | opening (uri : String)
  | updating (uri : String)
  /-- A document is updated that was not open. -/
  | updatingUnopened (uri : String)
  | closing (uri : String)
  /-- The highlight of a document is asked for that is not open. -/
  | highlightUnopened (uri : String)
  | serverInitializing
  | serverInitialized
  | serverShuttingDown
  | documentOpened (uri : String)
  | documentChanged (uri : String)
  | documentClosed (uri : String)
  | highlightRequested (uri : String)
  | deltaRequested (uri : String)
  | rangeRequested (uri : String)
  /-- The client sent settings that are refused. -/
  | settingsRefused (fault : Settings.Fault)

namespace Event

/-- The level of an event. -/
def level : Event → Level
  | unclassified _ => .trace
  | skipped .. | misplaced .. | settingsRefused _ => .warn
  | serverInitializing | serverInitialized | serverShuttingDown => .info
  | _ => .debug

/-- The message of an event. -/
def message : Event → String
  | unclassified kind => s!"no classification for token kind '{kind.name}'"
  | skipped token fault =>
    s!"skipping token '{token.text}' ({token.kind.name}) at L{token.start.line}:"
      ++ s!"{token.start.column}: {fault.message}"
  | misplaced start previous =>
    s!"out-of-order semantic token at L{start.line}:{start.column} "
      ++ s!"(prev L{previous.line}:{previous.column})"
  | tokenized revision tokenCount =>
    s!"re-tokenized document revision {revision}: {tokenCount} tokens"
  | highlighted entryCount revision =>
    s!"computed {entryCount} semantic tokens for revision {revision}"
  | opening uri => s!"open {uri}"
  | updating uri => s!"update {uri}"
  | updatingUnopened uri => s!"update for unopened document {uri}; opening it"
  | closing uri => s!"close {uri}"
  | highlightUnopened uri => s!"semantic tokens requested for unopened document {uri}"
  | serverInitializing => "Initializing Nako Language Server"
  | serverInitialized => "Nako Language Server initialized"
  | serverShuttingDown => "Shutting down Nako Language Server"
  | documentOpened uri => s!"Document opened: {uri}"
  | documentChanged uri => s!"Document changed: {uri}"
  | documentClosed uri => s!"Document closed: {uri}"
  | highlightRequested uri => s!"Semantic tokens request: {uri}"
  | deltaRequested uri => s!"Semantic tokens delta request (unsupported): {uri}"
  | rangeRequested uri => s!"Semantic tokens range request (unsupported): {uri}"
  | settingsRefused fault => s!"ignoring client settings: {fault.message}"

/-- The line of a log that records an event. -/
def logLine (event : Event) : String := s!"{event.level.name} {event.message}"

/-- The lines of a log that keeps events up to a level. -/
def log (most : Level) (events : List Event) : List String :=
  (events.filter (·.level.detail ≤ most.detail)).map logLine

end Event

end Nadesiko
