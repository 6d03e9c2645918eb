/-!
# Positions in a text

A position is a line and a column, both counted from zero, and positions are compared line first.
Columns are counted in UTF-16 code units, because that is how an editor counts them. A span is the
half-open stretch between two positions.
-/

namespace Nadesiko

/-- A place between two characters of a text. -/
structure Position where
  /-- The number of line breaks before the place. -/
  line : Nat
  /-- The number of UTF-16 code units between the start of the line and the place. -/
  column : Nat
deriving DecidableEq

namespace Position

/-- The start of every text. -/
def zero : Position := ⟨0, 0⟩

instance : LT Position where
  lt p q := p.line < q.line ∨ (p.line = q.line ∧ p.column < q.column)

instance : LE Position where
  le p q := p.line < q.line ∨ (p.line = q.line ∧ p.column ≤ q.column)

theorem lt_iff {p q : Position} :
    p < q ↔ p.line < q.line ∨ (p.line = q.line ∧ p.column < q.column) := Iff.rfl

theorem le_iff {p q : Position} :
    p ≤ q ↔ p.line < q.line ∨ (p.line = q.line ∧ p.column ≤ q.column) := Iff.rfl

instance (p q : Position) : Decidable (p < q) := decidable_of_iff' _ lt_iff

instance (p q : Position) : Decidable (p ≤ q) := decidable_of_iff' _ le_iff

theorem le_refl (p : Position) : p ≤ p := Or.inr ⟨rfl, Nat.le_refl _⟩

theorem le_trans {p q r : Position} (hpq : p ≤ q) (hqr : q ≤ r) : p ≤ r := by
  rw [le_iff] at *; omega

theorem lt_of_le_of_lt {p q r : Position} (hpq : p ≤ q) (hqr : q < r) : p < r := by
  rw [le_iff] at hpq; rw [lt_iff] at *; omega

theorem lt_of_lt_of_le {p q r : Position} (hpq : p < q) (hqr : q ≤ r) : p < r := by
  rw [le_iff] at hqr; rw [lt_iff] at *; omega

theorem le_of_lt {p q : Position} (h : p < q) : p ≤ q := by
  rw [lt_iff] at h; rw [le_iff]; omega

theorem not_lt {p q : Position} : ¬ p < q ↔ q ≤ p := by
  rw [lt_iff, le_iff]; omega

end Position

/-- The half-open stretch from `start` up to, and without, `stop`. -/
structure Span where
  /-- The first place of the stretch. -/
  start : Position
  /-- The place right after the stretch. -/
  stop : Position
deriving DecidableEq

end Nadesiko
