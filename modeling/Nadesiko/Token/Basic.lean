import Nadesiko.Position
import Nadesiko.Token.Kind

/-!
# Tokens

A token is a stretch of text with a kind. Its particle, if it has one, is part of the text but not
of the content: the content ends at `contentStop` and the particle starts at `particleStart`, both
columns of the token's last line.
-/

namespace Nadesiko

/-- A token of a text. -/
structure Token where
  /-- What the token is. -/
  kind : Kind
  /-- The whole text, with the particle. -/
  text : String
  /-- Where the text starts. -/
  start : Position
  /-- Where the text stops. -/
  stop : Position
  /-- The column on the last line at which the text without the particle stops. -/
  contentStop : Nat
  /-- The particle, empty if there is none. -/
  particle : String
  /-- The column at which the particle starts, if there is one. -/
  particleStart : Option Nat
deriving DecidableEq

namespace Token

/-- A token without a particle. -/
def plain (kind : Kind) (text : String) (start stop : Position) : Token :=
  ⟨kind, text, start, stop, stop.column, "", none⟩

/-- The same token with the end of its text, from a column on, marked as its particle. An empty
particle marks nothing. -/
def withParticle (token : Token) (particle : String) (column : Nat) : Token :=
  if particle = "" then token
  else { token with contentStop := column, particle := particle, particleStart := some column }

/-- Whether the token has a particle. -/
def hasParticle (token : Token) : Bool := token.particle != ""

/-- The text without the particle. A particle that the text does not end with takes nothing away. -/
def stem (token : Token) : String :=
  let text := token.text.toList
  let particle := token.particle.toList
  if particle.isSuffixOf text then String.ofList (text.take (text.length - particle.length))
  else token.text

/-- What stands before the particle is the stem. -/
theorem stem_of_text_eq {token : Token} {stem : List Char}
    (h : token.text.toList = stem ++ token.particle.toList) :
    token.stem = String.ofList stem := by
  have hs : token.particle.toList.isSuffixOf (stem ++ token.particle.toList) = true :=
    List.isSuffixOf_iff_suffix.2 (List.suffix_append _ _)
  simp [Token.stem, h, hs]

end Token

end Nadesiko
