import Nadesiko.Highlight.Classification
import Nadesiko.Overflow

/-!
# Legends

A legend is the list of categories and the list of modifiers that a client was told at the start. A
category travels as its first index in the legend, and a set of modifiers as a word in which the bit
at each modifier's first index is set. A legend may lack categories and modifiers or repeat them.
-/

namespace Nadesiko

/-- The categories and modifiers that indices refer to. -/
structure Legend where
  /-- The categories, by index. -/
  categories : List Category
  /-- The modifiers, by bit. -/
  modifiers : List Modifier
deriving DecidableEq

namespace Legend

/-- The legend with every category and every modifier, once and in the standard order. -/
def standard : Legend := ⟨Category.all, Modifier.all⟩

/-- Why a classification cannot be written with a legend. -/
inductive Fault where
  | unknownCategory (c : Category)
  | unknownModifier (m : Modifier)
  /-- The modifier's index is past the last bit of a word. -/
  | unrepresentable (m : Modifier)
deriving DecidableEq

/-- The message that reports a fault. -/
def Fault.message : Fault → String
  | unknownCategory c => s!"category '{c.name}' is not in the semantic token legend"
  | unknownModifier m => s!"modifier '{m.name}' is not in the semantic token legend"
  | unrepresentable _ => Overflow.shift.message

/-- The index of a category. -/
def categoryIndex (legend : Legend) (c : Category) : Except Fault Nat :=
  match legend.categories.idxOf? c with
  | some index => .ok index
  | none => .error (.unknownCategory c)

/-- The word in which only the bit of a modifier is set. -/
def modifierBit (legend : Legend) (m : Modifier) : Except Fault Nat :=
  match legend.modifiers.idxOf? m with
  | some index => if index < wordBits then .ok (1 <<< index) else .error (.unrepresentable m)
  | none => .error (.unknownModifier m)

/-- The word in which the bits of the given modifiers are set. The first modifier that has no bit
decides the fault. -/
def modifierBits (legend : Legend) (modifiers : List Modifier) : Except Fault Nat :=
  modifiers.foldlM (fun bits m => return bits ||| (← legend.modifierBit m)) 0

/-- The index and the bits of a classification. A fault of the category comes first. -/
def encode (legend : Legend) (c : Classification) : Except Fault (Nat × Nat) := do
  let index ← legend.categoryIndex c.category
  let bits ← legend.modifierBits c.modifiers
  return (index, bits)

/-- The name of the category at an index. -/
def categoryName? (legend : Legend) (index : Nat) : Option String :=
  legend.categories[index]?.map Category.name

end Legend

end Nadesiko
