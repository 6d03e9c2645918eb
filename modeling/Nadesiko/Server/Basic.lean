import Nadesiko.Highlight.Dump
import Nadesiko.Registry
import Nadesiko.Server.Call
import Nadesiko.Server.Reply

/-!
# The language server

A server runs one session at a time: it is started once and ended once. Before the start and after
the end every request is refused and every notification is dropped, and neither leaves a trace.
During the session each call reads or changes the open documents and the settings.
-/

namespace Nadesiko

/-- How far the session has come. -/
inductive Phase where
  | fresh
  | running
  | ended
deriving DecidableEq

/-- A language server. -/
structure Server where
  /-- How far the session has come. -/
  phase : Phase
  /-- The open documents. -/
  registry : Registry
  /-- The settings of the client. -/
  settings : Settings

namespace Server

/-- A server before its session. -/
def fresh (legend : Legend) (env : Environment) : Server :=
  ⟨.fresh, Registry.empty legend, Settings.ofEnvironment env⟩

/-- Applies settings, and records why they are refused if they are. -/
def applySettings (server : Server) (value : Json) : Logged Server := do
  let (outcome, settings) := server.settings.apply value
  if let .error fault := outcome then
    Logged.record [.settingsRefused fault]
  return { server with settings := settings }

/-- Starts the session. -/
def start (server : Server) (options : Option Json) : Logged (Answer × Server) := do
  Logged.record [.serverInitializing]
  let server ←
    match options with
    | none => pure server
    | some value => server.applySettings value
  return (.ofResult (.started server.registry.legend), { server with phase := .running })

/-- Answers a request for a highlight, and traces the answer if the settings ask for it. -/
def highlight (server : Server) (uri : String) : Logged (Answer × Server) := do
  Logged.record [.highlightRequested uri]
  let (buffer, registry) ← server.registry.highlight uri
  let messages ←
    if server.settings.traceSemanticTokens then do
      let dump ← Logged.ofExcept (Delta.dump registry.legend buffer.data)
      pure [s!"[semantic] {uri}\n{dump}"]
    else pure []
  return (⟨.result (.highlight buffer), messages⟩, { server with registry := registry })

/-- Takes the last of the new texts of a document; without one nothing changes. -/
def change (server : Server) (uri : String) (version : Int) (texts : List String) :
    Logged Server := do
  Logged.record [.documentChanged uri]
  match texts.getLast? with
  | none => return server
  | some text => return { server with registry := ← server.registry.updateText uri text version }

/-- Answers a call during the session. -/
def serve (server : Server) : Call → Logged (Answer × Server)
  | .start _ => return (.ofRefusal .invalidRequest, server)
  | .ready => do
    Logged.record [.serverInitialized]
    return (⟨.none, [s!"Nako Language Server {serverVersion} ready"]⟩, server)
  | .shutdown => do
    Logged.record [.serverShuttingDown]
    return (.ofResult .ended, { server with phase := .ended })
  | .openText uri text version => do
    Logged.record [.documentOpened uri]
    let registry ← server.registry.openText uri text version
    return (.silence, { server with registry := registry })
  | .changeText uri version texts => return (.silence, ← server.change uri version texts)
  | .close uri => do
    Logged.record [.documentClosed uri]
    let (_, registry) ← server.registry.close uri
    return (.silence, { server with registry := registry })
  | .configure settings => return (.silence, ← server.applySettings settings)
  | .highlight uri => server.highlight uri
  | .highlightDelta uri => do
    Logged.record [.deltaRequested uri]
    return (.ofResult (.highlight .empty), server)
  | .highlightRange uri => do
    Logged.record [.rangeRequested uri]
    return (.ofResult (.highlight .empty), server)
  | .spanAt uri p => return (.ofResult (.span (server.registry.spanAt? uri p)), server)
  | .hoverAt uri p => return (.ofResult (.hover (server.registry.hoverAt? uri p)), server)

/-- Answers a call outside of the session. -/
def reject (server : Server) (call : Call) (refusal : Refusal) : Logged (Answer × Server) :=
  return (if call.isRequest then .ofRefusal refusal else .silence, server)

/-- Answers a call. -/
def handle (server : Server) (call : Call) : Logged (Answer × Server) :=
  match server.phase, call with
  | .fresh, .start options => server.start options
  | .fresh, call => server.reject call .notInitialized
  | .running, call => server.serve call
  | .ended, call => server.reject call .invalidRequest

end Server

end Nadesiko
