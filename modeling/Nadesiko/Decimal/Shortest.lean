/-!
# The shortest decimal that reads back

A positive floating-point number is `significand · 2 ^ exponent`. All reals nearer to it than to its
neighbours read back as the same number, and so do the two ends of that interval when the
significand is even. The shortest decimal is the one with the fewest digits in the interval, and
among those the nearest to the number.

A decimal grid with `n` digits is tried for growing `n`. If any point of a grid lies in the
interval, then one of the number's two neighbours on the grid does, so only these two are looked at.
All comparisons are exact, on natural numbers over a common denominator.
-/

namespace Nadesiko

/-- The decimal `digits · 10 ^ exponent`. -/
structure Decimal where
  /-- The digits as one number. -/
  digits : Nat
  /-- The power of ten of the last digit. -/
  exponent : Int
deriving DecidableEq

namespace Decimal

/-- The power of ten with a whole exponent; a negative exponent counts as zero. -/
def powerOfTen (exponent : Int) : Nat := Nat.pow 10 exponent.toNat

/-- The number of decimal digits of a number. -/
def digitCount (n : Nat) : Nat := (Nat.toDigits 10 n).length

/-- The same decimal without zeros at the end of its digits, of which it has at most `count`. -/
def trimmed (d : Decimal) : (count : Nat) → Decimal
  | 0 => d
  | count + 1 =>
    if d.digits ≠ 0 ∧ d.digits % 10 = 0 then trimmed ⟨d.digits / 10, d.exponent + 1⟩ count else d

/-- A positive number together with the interval of reals that read back as it, all over one
denominator. -/
structure Interval where
  /-- The lower end. -/
  low : Nat
  /-- The number itself. -/
  value : Nat
  /-- The upper end. -/
  high : Nat
  /-- The denominator of all three. -/
  denominator : Nat
  /-- Whether the ends belong to the interval. -/
  closed : Bool

namespace Interval

/-- The interval of `significand · 2 ^ exponent`. At a power of two the lower neighbour is half as
far away as the upper one; `narrow` says that this is the case. -/
def ofBinary (significand : Nat) (exponent : Int) (narrow : Bool) : Interval :=
  let scale := 1 <<< (exponent - 2).toNat
  { low := (4 * significand - (if narrow then 1 else 2)) * scale
    value := 4 * significand * scale
    high := (4 * significand + 2) * scale
    denominator := 1 <<< (2 - exponent).toNat
    closed := significand % 2 == 0 }

/-- The interval measured in units of `10 ^ exponent`. -/
def inUnits (i : Interval) (exponent : Int) : Interval :=
  let up := powerOfTen (-exponent)
  { i with
    low := i.low * up
    value := i.value * up
    high := i.high * up
    denominator := i.denominator * powerOfTen exponent }

/-- Whether a whole number lies in the interval. -/
def contains (i : Interval) (n : Nat) : Bool :=
  let m := n * i.denominator
  if i.closed then i.low ≤ m && m ≤ i.high else i.low < m && m < i.high

/-- The power of ten of the number's first digit. -/
def leadingExponent (i : Interval) : Int :=
  if i.denominator ≤ i.value then digitCount (i.value / i.denominator) - 1
  else
    let count := digitCount (i.denominator / i.value)
    if i.value * powerOfTen (count - 1) = i.denominator then 1 - (count : Int) else -(count : Int)

/-- The whole number in the interval that is nearest to the number, if there is one among the two
around it. Of two equally near ones the even one is taken. -/
def nearest? (i : Interval) : Option Nat :=
  let below := i.value / i.denominator
  let toBelow := i.value % i.denominator
  let toAbove := i.denominator - toBelow
  let preferBelow := toBelow < toAbove || (toBelow == toAbove && below % 2 == 0)
  match i.contains below, i.contains (below + 1) with
  | true, true => some (if preferBelow then below else below + 1)
  | true, false => some below
  | false, true => some (below + 1)
  | false, false => none

/-- The first grid with a decimal in the interval, among `count` grids from `digits` digits on. -/
def search (i : Interval) (leading : Int) (digits : Nat) : (count : Nat) → Option Decimal
  | 0 => none
  | count + 1 =>
    let exponent := leading + 1 - digits
    match (i.inUnits exponent).nearest? with
    | some n => some ⟨n, exponent⟩
    | none => search i leading (digits + 1) count

end Interval

/-- Seventeen digits are always enough for a number of 53 bits. -/
def maxDigits : Nat := 17

/-- The shortest decimal that reads back as `significand · 2 ^ exponent`. -/
def shortest (significand : Nat) (exponent : Int) (narrow : Bool) : Decimal :=
  let i := Interval.ofBinary significand exponent narrow
  match i.search i.leadingExponent 1 maxDigits with
  | some d => d.trimmed maxDigits
  | none => ⟨0, 0⟩

end Decimal

end Nadesiko
