import Nadesiko.Token.Basic

/-!
# What stands at a position

A token covers the positions from its start up to, and without, its stop. Tokens come in the order
of the text, so the ones that end before a position are skipped from the left: first the ones on
earlier lines, then the ones on the same line. The next token is the answer, unless it starts only
after the position.

A token with a particle is shown in two parts. Which of them is meant is decided by the column
alone.
-/

namespace Nadesiko

namespace Token

/-- The tokens that are left when those that end at or before a position are skipped. -/
def endingAfter (tokens : List Token) (p : Position) : List Token :=
  (tokens.dropWhile (fun t => t.stop.line < p.line)).dropWhile
    (fun t => t.stop.line == p.line && t.stop.column ≤ p.column)

/-- The token that covers a position. -/
def at? (tokens : List Token) (p : Position) : Option Token :=
  (endingAfter tokens p).head?.filter (fun t => t.start ≤ p)

/-- The index of the token that covers a position. -/
def indexAt? (tokens : List Token) (p : Position) : Option Nat :=
  (at? tokens p).map (fun _ => tokens.length - (endingAfter tokens p).length)

/-- The stretch of a token that a column points to: its particle from the particle's start on, and
what stands before the particle otherwise. -/
def spanAt (token : Token) (column : Nat) : Span :=
  match token.particleStart with
  | some particleStart =>
    let middle : Position := ⟨token.stop.line, particleStart⟩
    if token.hasParticle then
      if column < particleStart then ⟨token.start, middle⟩ else ⟨middle, token.stop⟩
    else ⟨token.start, token.stop⟩
  | none => ⟨token.start, token.stop⟩

/-- The stretch to highlight for a position. -/
def spanAt? (tokens : List Token) (p : Position) : Option Span :=
  (at? tokens p).map (·.spanAt p.column)

end Token

end Nadesiko
