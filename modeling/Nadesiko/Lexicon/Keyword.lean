/-!
# Keywords

A keyword has one name and sometimes further spellings. Three keywords may be written directly after
a word that does not end in hiragana; they are the ones that close a condition or a block.
-/

namespace Nadesiko.Lexicon

/-- The keywords of the language. -/
inductive Keyword where
  /-- もし, opens a condition. -/
  | condition
  /-- ならば, the branch taken when the condition holds. -/
  | consequent
  /-- 違えば, the branch taken otherwise. -/
  | alternative
  /-- でなければ, the branch taken when the condition fails. -/
  | negatedConsequent
  /-- ここまで, closes a block. -/
  | blockEnd
  /-- 回, repeats a number of times. -/
  | times
  /-- 間, repeats while a condition holds. -/
  | whileLoop
  /-- 繰返, counts through a range. -/
  | countLoop
  /-- 増繰返, counts upwards. -/
  | countUp
  /-- 減繰返, counts downwards. -/
  | countDown
  /-- 反復, visits the elements of a list. -/
  | forEach
  /-- 抜ける, leaves a loop. -/
  | leave
  /-- 続ける, goes on with the next round of a loop. -/
  | proceed
  /-- 戻る, returns from a function. -/
  | giveBack
  /-- 条件分岐, chooses between cases. -/
  | caseChoice
  /-- エラー監視, watches for errors. -/
  | watchErrors
  /-- エラーならば, handles an error. -/
  | onError
  /-- 後判定, tests the condition after the loop body. -/
  | postTest
  /-- 取込, takes in another file. -/
  | takeIn
  /-- 逐次実行, runs steps one after another. -/
  | sequential
  /-- 変数, declares a variable. -/
  | declareVariable
  /-- 定数, declares a constant. -/
  | declareConstant
  /-- とは, defines. -/
  | definedAs
deriving DecidableEq

namespace Keyword

/-- Every keyword. -/
def all : List Keyword := [
  condition, consequent, alternative, negatedConsequent, blockEnd, times, whileLoop, countLoop,
  countUp, countDown, forEach, leave, proceed, giveBack, caseChoice, watchErrors, onError, postTest,
  takeIn, sequential, declareVariable, declareConstant, definedAs]

theorem mem_all (k : Keyword) : k ∈ all := by
  cases k <;> decide

/-- The name of a keyword, which is also its first spelling. -/
def name : Keyword → String
  | condition => "もし"
  | consequent => "ならば"
  | alternative => "違えば"
  | negatedConsequent => "でなければ"
  | blockEnd => "ここまで"
  | times => "回"
  | whileLoop => "間"
  | countLoop => "繰返"
  | countUp => "増繰返"
  | countDown => "減繰返"
  | forEach => "反復"
  | leave => "抜ける"
  | proceed => "続ける"
  | giveBack => "戻る"
  | caseChoice => "条件分岐"
  | watchErrors => "エラー監視"
  | onError => "エラーならば"
  | postTest => "後判定"
  | takeIn => "取込"
  | sequential => "逐次実行"
  | declareVariable => "変数"
  | declareConstant => "定数"
  | definedAs => "とは"

/-- The spellings of keywords other than their names. -/
def aliases : List (String × Keyword) := [
  ("なら", consequent), ("繰り返す", countLoop), ("繰返す", countLoop), ("増やし繰り返す", countUp),
  ("減らし繰り返す", countDown), ("取り込む", takeIn)]

/-- Every spelling with the keyword it stands for. -/
def spellings : List (String × Keyword) := all.map (fun k => (k.name, k)) ++ aliases

/-- The keyword that a word spells. -/
def ofSpelling? (word : String) : Option Keyword := spellings.lookup word

/-- The keywords that may directly follow a word without a particle between them. -/
def suffixes : List Keyword := [negatedConsequent, consequent, blockEnd]

/-- Whether a text begins with a keyword that may directly follow a word. -/
def suffixAhead (rest : List Char) : Bool := suffixes.any (·.name.toList.isPrefixOf rest)

/-- What spells a keyword is in the table. -/
theorem mem_spellings_of_ofSpelling? {spelling : String} {k : Keyword}
    (h : ofSpelling? spelling = some k) : (spelling, k) ∈ spellings := by
  obtain ⟨front, back, hsplit, _⟩ := List.lookup_eq_some_iff.mp h
  rw [hsplit]
  exact List.mem_append_right _ (List.mem_cons_self ..)

theorem ofSpelling?_name (k : Keyword) : ofSpelling? k.name = some k := by
  cases k <;> decide +kernel

end Keyword

end Nadesiko.Lexicon
