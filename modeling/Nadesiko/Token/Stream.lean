import Nadesiko.Token.Basic
import Nadesiko.Token.Header

/-!
# The tokens of a text

The lexemes of a text become tokens in two steps. The first goes from left to right and gives each
lexeme the kind that its header calls for. The second looks at the whole text: a word that names a
function defined anywhere in it, before or after, is a call of that function.
-/

namespace Nadesiko

open Text

namespace Token

/-- A lexeme as a token of a given kind. -/
def ofLexeme (kind : Kind) (lexeme : Lexeme) : Token :=
  let token := plain kind (String.ofList lexeme.text) lexeme.start lexeme.stop
  match lexeme.particle with
  | none => token
  | some particle => token.withParticle particle lexeme.stemStop.column

/-- The tokens of a list of lexemes of which the first stands in the given header. -/
def ofLexemes (header : Header) : List Lexeme → List Token
  | [] => []
  | lexeme :: later =>
    match header.kind? lexeme with
    | none => ofLexemes (header.next lexeme) later
    | some kind => ofLexeme kind lexeme :: ofLexemes (header.next lexeme) later

/-- The names of the functions that are defined in a list of tokens. -/
def definedNames (tokens : List Token) : List String :=
  (tokens.filter (·.kind == .functionName)).map stem

/-- A word that is one of the given names is a call of a function. -/
def markCall (names : List String) (token : Token) : Token :=
  if token.kind == .word && names.contains token.stem then { token with kind := .userFunction }
  else token

/-- Marks the calls of all functions defined in a list of tokens. -/
def markCalls (tokens : List Token) : List Token := tokens.map (markCall (definedNames tokens))

end Token

/-- The tokens of a text, in order. -/
def tokenize (text : List Char) : List Token :=
  Token.markCalls (Token.ofLexemes .outside (Lexeme.ofText text))

end Nadesiko
