import Nadesiko.Json
import Nadesiko.Position

/-!
# Calls

A client calls the server with requests, which are answered, and with notifications, which are not.
-/

namespace Nadesiko

/-- What a client sends. -/
inductive Call where
  /-- Starts the session; the options may carry settings. -/
  | start (options : Option Json)
  /-- The client is ready. -/
  | ready
  /-- Ends the session. -/
  | shutdown
  | openText (uri text : String) (version : Int)
  /-- New texts of a document, of which the last one counts. -/
  | changeText (uri : String) (version : Int) (texts : List String)
  | close (uri : String)
  | configure (settings : Json)
  /-- Asks for the highlight of a document. -/
  | highlight (uri : String)
  /-- Asks for what has changed in a highlight. -/
  | highlightDelta (uri : String)
  /-- Asks for the highlight of a part of a document. -/
  | highlightRange (uri : String)
  /-- Asks for the stretch to highlight around a position. -/
  | spanAt (uri : String) (p : Position)
  | hoverAt (uri : String) (p : Position)

namespace Call

/-- Whether a call is answered. -/
def isRequest : Call → Bool
  | start _ | shutdown | highlight _ | highlightDelta _ | highlightRange _
  | spanAt .. | hoverAt .. => true
  | ready | openText .. | changeText .. | close _ | configure _ => false

end Call

end Nadesiko
