import Nadesiko.Lexicon.Keyword
import Nadesiko.Lexicon.Builtin
import Nadesiko.Lexicon.Operator

/-!
# Kinds of tokens

A kind says what a token is to the reader of a program. Every kind has a name: keywords go by their
own name, operators by their spelling, and the rest by a fixed tag. Kinds can also be given by name
from outside, and a name that is none of these stays as it is.
-/

namespace Nadesiko

open Lexicon

/-- What a token is. -/
inductive Kind where
  /-- A word with no special meaning. -/
  | word
  /-- The name in a function definition. -/
  | functionName
  /-- A word that names a function defined in the same text. -/
  | userFunction
  /-- A parameter in a function definition. -/
  | argument
  /-- A built-in name. -/
  | builtin (b : Builtin)
  | number
  /-- An integer of any size. -/
  | bigInteger
  /-- A string taken literally. -/
  | string
  /-- A string with parts to be filled in. -/
  | template
  | lineComment
  | rangeComment
  | docComment
  /-- A directive at the start of a line. -/
  | pragma
  /-- The mark that opens a function definition. -/
  | definition
  /-- The ideographic comma between phrases. -/
  | comma
  /-- The ideographic full stop at the end of a sentence. -/
  | sentenceEnd
  /-- A character that starts nothing. -/
  | unknown
  | keyword (k : Keyword)
  | operator (op : Operator)
  /-- A kind known only by its name. -/
  | unlisted (name : String)
deriving DecidableEq

namespace Kind

/-- The name of a kind. -/
def name : Kind → String
  | word => "word"
  | functionName => "func"
  | userFunction => "user_func"
  | argument => "arg"
  | builtin .variableName => "sys_var"
  | builtin .constant => "sys_const"
  | builtin .function => "sys_func"
  | number => "number"
  | bigInteger => "bigint"
  | string => "string"
  | template => "string_ex"
  | lineComment => "line_comment"
  | rangeComment => "range_comment"
  | docComment => "doc_comment"
  | pragma => "pragma"
  | definition => "def_func"
  | comma => "comma"
  | sentenceEnd => "eol"
  | unknown => "unknown"
  | keyword k => k.name
  | operator op => op.spelling
  | unlisted name => name

/-- Every kind that is more than a name. -/
def listed : List Kind :=
  [word, functionName, userFunction, argument, builtin .variableName, builtin .constant,
    builtin .function, number, bigInteger, string, template, lineComment, rangeComment, docComment,
    pragma, definition, comma, sentenceEnd, unknown]
    ++ Keyword.all.map keyword ++ Operator.all.map operator

/-- The kind with a given name. -/
def ofName (name : String) : Kind :=
  (listed.find? (·.name == name)).getD (unlisted name)

/-- Reading a kind's name and naming it again gives the name back. -/
@[simp] theorem name_ofName (s : String) : (ofName s).name = s := by
  unfold ofName
  cases h : listed.find? (·.name == s) with
  | none => rfl
  | some k =>
    have hk := List.find?_some h
    exact eq_of_beq hk

end Kind

end Nadesiko
