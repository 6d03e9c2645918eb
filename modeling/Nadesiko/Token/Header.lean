import Nadesiko.Lexeme.Basic
import Nadesiko.Token.Kind

/-!
# Function headers

A function definition starts with ● and its header reaches to the end of the line. The first word
outside of brackets is the function's name, and the words inside brackets are its parameters, which
may stand before or after the name. What a word means therefore depends on the header it stands in.
-/

namespace Nadesiko

open Lexicon

/-- Where a lexeme stands with respect to a function header. -/
inductive Header where
  /-- Outside of every header. -/
  | outside
  /-- In a header and outside of its brackets; `named` says whether the name has been read. -/
  | heading (named : Bool)
  /-- In a header and inside of its brackets. -/
  | parameters (named : Bool)
deriving DecidableEq

namespace Header

/-- The kind of a word by its spelling alone. -/
def wordKind (stem : List Char) : Kind :=
  match Keyword.ofSpelling? (String.ofList stem) with
  | some k => .keyword k
  | none =>
    match Builtin.ofWord? stem with
    | some b => .builtin b
    | none => .word

/-- The kind of a word that stands in a header, or outside of all. -/
def wordKindIn (header : Header) (stem : List Char) : Kind :=
  match header with
  | .parameters _ => .argument
  | .heading false => .functionName
  | .heading true | .outside => wordKind stem

/-- The kind of a lexeme; gaps have none. -/
def kind? (header : Header) (lexeme : Lexeme) : Option Kind :=
  match lexeme.shape with
  | .lineBreak | .blank => none
  | .word => some (header.wordKindIn lexeme.stem)
  | .comma => some .comma
  | .sentenceEnd => some .sentenceEnd
  | .lineComment => some .lineComment
  | .rangeComment => some .rangeComment
  | .docComment => some .docComment
  | .pragma => some .pragma
  | .string => some .string
  | .template => some .template
  | .number => some .number
  | .definition => some .definition
  | .operator op => some (.operator op)
  | .unknown => some .unknown

/-- Exactly the gaps have no kind. -/
theorem kind?_eq_none_iff {header : Header} {lexeme : Lexeme} :
    header.kind? lexeme = none ↔ lexeme.shape.isGap = true := by
  unfold kind?
  cases lexeme.shape <;> simp [Lexeme.Shape.isGap]

/-- Where the lexeme after an operator stands. Brackets do not nest. -/
def afterOperator (header : Header) (op : Operator) : Header :=
  match header with
  | .heading named => if op.opensParameters then .parameters named else header
  | .parameters named => if op.closesParameters then .heading named else header
  | .outside => .outside

/-- Where the next lexeme stands. -/
def next (header : Header) (lexeme : Lexeme) : Header :=
  match lexeme.shape with
  | .lineBreak => .outside
  | .definition => .heading false
  | .operator op => header.afterOperator op
  | .word => if header = .heading false then .heading true else header
  | _ => header

end Header

end Nadesiko
