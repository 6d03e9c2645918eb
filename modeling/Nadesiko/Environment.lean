/-!
# Environment variables

The environment gives bytes to names. A value that is not well-formed UTF-8 counts as unset.
-/

namespace Nadesiko

/-- The values of environment variables. -/
abbrev Environment := List (String × ByteArray)

namespace Environment

/-- The text of a variable, if it is set to one. -/
def text? (env : Environment) (name : String) : Option String :=
  (env.lookup name).bind String.fromUTF8?

/-- Which messages are logged when nothing else is asked for. -/
def defaultLogFilter : String := "nako_lsp=info"

/-- Which messages are logged: the program's own variable comes before the general one. -/
def logFilter (env : Environment) : String :=
  ((env.text? "NAKO_LSP_LOG").or (env.text? "RUST_LOG")).getD defaultLogFilter

end Environment

end Nadesiko
