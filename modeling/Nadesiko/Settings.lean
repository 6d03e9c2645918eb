import Nadesiko.Decimal.Text
import Nadesiko.Environment
import Nadesiko.Json
import Nadesiko.Text.Quoted

/-!
# Settings

There is one setting: whether highlight answers are traced to the client. It starts from the
environment, and the client may change it by sending any JSON value. The value, or its own section
if it is an object that has one, carries the flag in three ways: as a member, as the only element of
a list, or not at all. Whether a value is accepted depends on the value alone, and a value that is
refused changes nothing.
-/

namespace Nadesiko

namespace Json

/-- Floating-point numbers whose first digit is between the fifth place behind the point and the
sixteenth before it are written out in messages. -/
def floatLayout : Decimal.Layout := ⟨-5, 15⟩

/-- How a message names a value that it did not expect. -/
def description : Json → String
  | null => "null"
  | bool b => s!"boolean `{b}`"
  | integer n => s!"integer `{n}`"
  | float x => s!"floating point `{(FloatParts.ofFloat x).text floatLayout}`"
  | string s => s!"string {Text.quoted s}"
  | array _ => "sequence"
  | object _ => "map"

end Json

/-- What the client can set. -/
structure Settings where
  /-- Whether highlight answers are traced to the client. -/
  traceSemanticTokens : Bool
deriving DecidableEq

namespace Settings

/-- Why a value is refused. -/
inductive Fault where
  /-- The flag is neither a truth value nor null. -/
  | notBoolean (found : Json)
  /-- The section is an empty list. -/
  | emptyList
  /-- The section is a list with more than one element. -/
  | longList (length : Nat)
  /-- The section is neither an object nor a list. -/
  | notSection (found : Json)

/-- The message that reports why a value is refused. -/
def Fault.message : Fault → String
  | notBoolean found => s!"invalid settings: invalid type: {found.description}, expected a boolean"
  | emptyList =>
    "invalid settings: invalid length 0, expected struct SettingsPatch with 1 element"
  | longList length =>
    s!"invalid settings: invalid length {length}, expected fewer elements in array"
  | notSection found =>
    s!"invalid settings: invalid type: {found.description}, expected struct SettingsPatch"

/-- The name of the member that holds the section. -/
def sectionName : String := "nakoLsp"

/-- The name of the member that holds the flag. -/
def flagName : String := "traceSemanticTokens"

/-- The flag that a value stands for; null stands for none. -/
def readFlag : Json → Except Fault (Option Bool)
  | .null => .ok none
  | .bool b => .ok (some b)
  | found => .error (.notBoolean found)

/-- The flag that a section carries. -/
def readSection : Json → Except Fault (Option Bool)
  | .object members =>
    match Json.lastMember? flagName members with
    | none => .ok none
    | some value => readFlag value
  | .array [] => .error .emptyList
  | .array [item] => readFlag item
  | .array (item :: others) => do
    let _ ← readFlag item
    .error (.longList (others.length + 1))
  | found => .error (.notSection found)

/-- The flag that a value carries. -/
def flag? : Json → Except Fault (Option Bool)
  | .null => .ok none
  | .object members => readSection ((Json.lastMember? sectionName members).getD (.object members))
  | value => readSection value

/-- Applies a value: whether it is accepted, and the settings afterwards. They are written after the
whole value has been read. -/
def apply (settings : Settings) (value : Json) : Except Fault Unit × Settings :=
  match flag? value with
  | .error fault => (.error fault, settings)
  | .ok none => (.ok (), settings)
  | .ok (some b) => (.ok (), { settings with traceSemanticTokens := b })

/-- The values of an environment variable that switch something on, in lower case. -/
def affirmations : List String := ["true", "1", "yes"]

/-- The settings that the environment asks for. Only letters of the Latin alphabet can turn into one
of the accepted words in lower case. -/
def ofEnvironment (env : Environment) : Settings where
  traceSemanticTokens :=
    match env.text? "NAKO_LSP_TRACE_SEMANTIC" with
    | none => false
    | some value => affirmations.contains value.toLower

end Settings

end Nadesiko
