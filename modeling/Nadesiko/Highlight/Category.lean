/-!
# Categories and modifiers

A highlighted token has one category, which picks its colour, and any number of modifiers, which
vary it.
-/

namespace Nadesiko

/-- The colour class of a token. -/
inductive Category where
  | function
  | variableName
  | comment
  | string
  | number
  | keyword
  | operator
  | type
  | parameter
  | decorator
deriving DecidableEq

/-- A variation of a category. -/
inductive Modifier where
  | declaration
  | documentation
  | defaultLibrary
  | deprecated
  | readonly
deriving DecidableEq

namespace Category

/-- Every category, in the standard order. -/
def all : List Category := [
  function, variableName, comment, string, number, keyword, operator, type, parameter, decorator]

theorem mem_all (c : Category) : c ∈ all := by
  cases c <;> decide

/-- The name by which clients know a category. -/
def name : Category → String
  | function => "function"
  | variableName => "variable"
  | comment => "comment"
  | string => "string"
  | number => "number"
  | keyword => "keyword"
  | operator => "operator"
  | type => "type"
  | parameter => "parameter"
  | decorator => "decorator"

/-- The category with a given name. -/
def ofName? (name : String) : Option Category := all.find? (·.name == name)

/-- Names and values are highlighted without the particle behind them. -/
def excludesParticle : Category → Bool
  | function | variableName | string | number => true
  | _ => false

end Category

namespace Modifier

/-- Every modifier, in the standard order. -/
def all : List Modifier := [declaration, documentation, defaultLibrary, deprecated, readonly]

theorem mem_all (m : Modifier) : m ∈ all := by
  cases m <;> decide

/-- The name by which clients know a modifier. -/
def name : Modifier → String
  | declaration => "declaration"
  | documentation => "documentation"
  | defaultLibrary => "defaultLibrary"
  | deprecated => "deprecated"
  | readonly => "readonly"

/-- The modifier with a given name. -/
def ofName? (name : String) : Option Modifier := all.find? (·.name == name)

end Modifier

end Nadesiko
