import Nadesiko.Highlight.Classification
import Nadesiko.Token.Lookup

/-!
# Hover texts

A hover says what a token is: its stem and kind, its category with the modifiers, and its particle.
-/

namespace Nadesiko

/-- What is shown about the token at a position. -/
structure Hover where
  /-- The text to show. -/
  text : String
  /-- The stretch that the text is about. -/
  span : Span
deriving DecidableEq

namespace Hover

/-- The line about a classification. -/
def categoryLine : Option Classification → String
  | none => "category: none"
  | some ⟨category, []⟩ => s!"category: {category.name}"
  | some ⟨category, modifiers⟩ =>
    let names := String.intercalate ", " (modifiers.map Modifier.name)
    s!"category: {category.name} [{names}]"

/-- The text about a token. -/
def describe (token : Token) : String :=
  let name := s!"`{token.stem}` ({token.kind.name})"
  let category := categoryLine token.kind.classification?
  let particle := if token.hasParticle then [s!"particle: 「{token.particle}」"] else []
  String.intercalate "\n\n" (name :: category :: particle)

/-- What is shown at a position. -/
def at? (tokens : List Token) (p : Position) : Option Hover :=
  (Token.at? tokens p).map (fun token => ⟨describe token, token.spanAt p.column⟩)

end Hover

end Nadesiko
