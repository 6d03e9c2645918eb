import Nadesiko.Server.Wire

/-!
# Replies

A request is answered with a result or refused. A notification gets no reply. Besides the reply, the
server may send messages to the client's log.
-/

namespace Nadesiko

/-- Why a request is refused. -/
inductive Refusal where
  /-- The session has not been started. -/
  | notInitialized
  /-- The session has been started or ended already. -/
  | invalidRequest
deriving DecidableEq

namespace Refusal

/-- The error code of a refusal. -/
def code : Refusal → Int
  | notInitialized => -32002
  | invalidRequest => -32600

/-- The error message of a refusal. -/
def message : Refusal → String
  | notInitialized => "Server not initialized"
  | invalidRequest => "Invalid request"

end Refusal

/-- The result of a request. -/
inductive Result where
  /-- The session has started; highlights are written with this legend. -/
  | started (legend : Legend)
  /-- The session has ended. -/
  | ended
  | highlight (buffer : Buffer)
  /-- The stretch to highlight, if there is one. -/
  | span (found : Option Span)
  /-- What to show, if there is something. -/
  | hover (found : Option Hover)
deriving DecidableEq

/-- How a call is answered. -/
inductive Reply where
  /-- A notification is not answered. -/
  | none
  | result (value : Result)
  | refusal (reason : Refusal)
deriving DecidableEq

/-- The version of the server. -/
def serverVersion : String := "0.1.0"

namespace Result

/-- What the server can do: whole texts are sent on a change, whole highlights are given, and
positions can be asked about. -/
def capabilities (legend : Legend) : Json :=
  .object [
    ("textDocumentSync", .nat 1),
    ("semanticTokensProvider",
      .object [("legend", legend.toJson), ("full", .bool true), ("range", .bool false)]),
    ("documentHighlightProvider", .bool true),
    ("hoverProvider", .bool true)]

/-- A result as a JSON value. -/
def toJson : Result → Json
  | started legend =>
    .object [
      ("capabilities", capabilities legend),
      ("serverInfo",
        .object [("name", .string "nako-lsp"), ("version", .string serverVersion)])]
  | ended => .null
  | highlight buffer => buffer.toJson
  | span found => .orNull (found.map Span.toHighlightsJson)
  | hover found => .orNull (found.map Hover.toJson)

end Result

/-- What the server does about a call. -/
structure Answer where
  /-- The reply. -/
  reply : Reply
  /-- The messages to the client's log, in order. -/
  messages : List String
deriving DecidableEq

namespace Answer

/-- No reply and no messages. -/
def silence : Answer := ⟨.none, []⟩

/-- A result without messages. -/
def ofResult (result : Result) : Answer := ⟨.result result, []⟩

/-- A refusal. -/
def ofRefusal (refusal : Refusal) : Answer := ⟨.refusal refusal, []⟩

end Answer

end Nadesiko
