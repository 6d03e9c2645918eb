import Nadesiko.Lexicon.Character

/-!
# Built-in names

Some words are known to the language without being declared: variables, constants and functions. A
function is known by the part before its hiragana ending, so that 足す and 足して name the same one.
-/

namespace Nadesiko.Lexicon

/-- What a built-in name stands for. -/
inductive Builtin where
  | variableName
  | constant
  | function
deriving DecidableEq

namespace Builtin

/-- The built-in variables. -/
def variableNames : List String := ["それ", "対象", "対象キー", "回数"]

/-- The built-in constants. -/
def constantNames : List String :=
  ["はい", "いいえ", "オン", "オフ", "改行", "タブ", "空", "真", "偽", "PI"]

/-- The built-in functions, without their endings. -/
def functionStems : List String := [
  "表示", "足", "引", "掛", "割", "連続", "文字数", "置換", "今日", "乱数", "四捨五入", "切上", "切捨",
  "文字列分解", "配列結合", "要素数", "秒待", "言", "尋", "整数変換", "文字列変換", "大文字変換",
  "小文字変換"]

end Builtin

/-- A word without the hiragana at its end; a word that is hiragana throughout is left whole. -/
def withoutEnding (word : List Char) : List Char :=
  match (word.reverse.dropWhile isHiragana).reverse with
  | [] => word
  | stem => stem

/-- What a word stands for, if it is built in. -/
def Builtin.ofWord? (word : List Char) : Option Builtin :=
  let text := String.ofList word
  if text ∈ variableNames then some variableName
  else if text ∈ constantNames then some constant
  else if String.ofList (withoutEnding word) ∈ functionStems then some function
  else none

end Nadesiko.Lexicon
