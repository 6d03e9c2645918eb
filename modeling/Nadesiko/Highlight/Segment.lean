import Nadesiko.Token.Basic

/-!
# Segments

A highlight never crosses the end of a line, so a token is highlighted as one segment for each of
its lines. A segment that is not on the last line reaches to the end of its line; a line that is
missing from the table of lengths counts as ending where the segment starts. On the last line the
segment reaches to the end of the token, or only to the end of its content when the particle is left
out.
-/

namespace Nadesiko

/-- A stretch of one line. -/
structure Segment where
  /-- Where the stretch starts. -/
  start : Position
  /-- Its length, which may be zero. -/
  length : Nat
deriving DecidableEq

namespace Token

/-- The column at which the highlight of the last line stops. -/
def highlightStop (token : Token) (excludeParticle : Bool) : Nat :=
  if excludeParticle then token.contentStop else token.stop.column

/-- The part of a token on one of its lines. -/
def segmentOn (token : Token) (excludeParticle : Bool) (lineLengths : List Nat) (line : Nat) :
    Segment :=
  let column := if line = token.start.line then token.start.column else 0
  let stop :=
    if line = token.stop.line then token.highlightStop excludeParticle
    else lineLengths[line]?.getD column
  ⟨⟨line, column⟩, stop - column⟩

/-- The segments of a token, one for each line from its first to its last. -/
def segments (token : Token) (excludeParticle : Bool) (lineLengths : List Nat) : List Segment :=
  (List.range' token.start.line (token.stop.line + 1 - token.start.line)).map
    (token.segmentOn excludeParticle lineLengths)

end Token

end Nadesiko
