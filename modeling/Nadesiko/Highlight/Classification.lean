import Nadesiko.Highlight.Category
import Nadesiko.Token.Kind

/-!
# How kinds are highlighted

Kinds are highlighted by their names. Each name in the table has one category and a fixed list of
modifiers, and what is not in the table is not highlighted. The table is written out by itself: it
does not look at the lists of keywords and operators that the tokens come from, so a kind that is
added there is not highlighted until its name is added here.
-/

namespace Nadesiko

/-- The category and the modifiers of a kind. -/
structure Classification where
  /-- The category. -/
  category : Category
  /-- The modifiers, in the order in which they are looked up. -/
  modifiers : List Modifier
deriving DecidableEq

/-- The classification that goes with the name of a kind, if it is highlighted. -/
def Classification.ofName? : String → Option Classification
  -- names of the program
  | "word" => some ⟨.variableName, []⟩
  | "func" => some ⟨.function, [.declaration]⟩
  | "user_func" => some ⟨.function, []⟩
  | "sys_func" => some ⟨.function, [.defaultLibrary]⟩
  | "sys_var" => some ⟨.variableName, [.defaultLibrary]⟩
  | "sys_const" => some ⟨.variableName, [.defaultLibrary, .readonly]⟩
  | "arg" => some ⟨.parameter, [.declaration]⟩
  -- literals
  | "number" | "bigint" => some ⟨.number, []⟩
  | "string" | "string_ex" => some ⟨.string, []⟩
  -- comments
  | "line_comment" | "range_comment" => some ⟨.comment, []⟩
  | "doc_comment" => some ⟨.comment, [.documentation]⟩
  -- declarations and directives
  | "def_func" => some ⟨.keyword, [.declaration]⟩
  | "変数" | "定数" => some ⟨.keyword, [.declaration]⟩
  | "pragma" => some ⟨.decorator, []⟩
  -- keywords
  | "もし" | "ならば" | "違えば" | "でなければ" | "ここまで" | "回" | "間" | "繰返" | "増繰返" | "減繰返"
  | "反復" | "抜ける" | "続ける" | "戻る" | "条件分岐" | "エラー監視" | "エラーならば" | "後判定" | "取込"
  | "逐次実行" | "とは" => some ⟨.keyword, []⟩
  -- operators and punctuation
  | "+" | "-" | "*" | "/" | "%" | "^" | "=" | "==" | "!=" | "<>" | "<" | ">" | "<=" | ">=" | "&&"
  | "||" | "&" | "!" | "(" | ")" | "[" | "]" | "\x7b" | "\x7d" | "," | ":" | "＋" | "－" | "×" | "÷"
  | "＝" | "≠" | "＜" | "＞" | "≦" | "≧" | "（" | "）" => some ⟨.operator, []⟩
  | _ => none

namespace Kind

/-- The classification of a kind, if it is highlighted. -/
def classification? (kind : Kind) : Option Classification := Classification.ofName? kind.name

/-- The name of the kind of words without special meaning. -/
def genericName : String := "word"

/-- Whether a kind is the one of words without special meaning. -/
def isGeneric (kind : Kind) : Bool := kind.name == genericName

/-- Whether the highlight of a token of this kind stops before the particle. -/
def excludesParticle (kind : Kind) (c : Classification) : Bool :=
  c.category.excludesParticle || kind.isGeneric

end Kind

end Nadesiko
