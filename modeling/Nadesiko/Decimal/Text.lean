import Nadesiko.Decimal.Shortest

/-!
# Floating-point numbers as text

A number is shown by its shortest decimal. Small and large numbers are shown with an exponent, and
the layout says between which exponents of the first digit a number is written out instead. A number
that is written out always has a point with a digit behind it, and an exponent always has its sign.
-/

namespace Nadesiko

namespace Decimal

/-- The exponents of the first digit for which a number is written out. -/
structure Layout where
  /-- The lowest such exponent. -/
  lowest : Int
  /-- The highest such exponent. -/
  highest : Int

/-- A row of zeros. -/
def zeros (n : Int) : List Char := List.replicate n.toNat '0'

/-- The text of a decimal. -/
def layOut (layout : Layout) (d : Decimal) : List Char :=
  let digits := Nat.toDigits 10 d.digits
  let leading := d.exponent + digits.length - 1
  if layout.lowest ≤ leading ∧ leading ≤ layout.highest then
    let whole :=
      if leading < 0 then ['0'] else (digits ++ zeros d.exponent).take (leading + 1).toNat
    let fraction :=
      if leading < 0 then zeros (-leading - 1) ++ digits else digits.drop (leading + 1).toNat
    whole ++ '.' :: (if fraction.isEmpty then ['0'] else fraction)
  else
    let fraction := digits.drop 1
    digits.take 1 ++ (if fraction.isEmpty then [] else '.' :: fraction)
      ++ 'e' :: (if leading < 0 then '-' else '+') :: Nat.toDigits 10 leading.natAbs

end Decimal

/-- The parts of a floating-point number of 64 bits. -/
structure FloatParts where
  /-- Whether the sign bit is set. -/
  negative : Bool
  /-- The eleven bits of the exponent. -/
  exponent : Nat
  /-- The 52 bits of the fraction. -/
  fraction : Nat

namespace FloatParts

/-- The parts of a number. -/
def ofFloat (x : Float) : FloatParts :=
  let bits := x.toBits.toNat
  ⟨bits.testBit 63, (bits >>> 52) % 2048, bits % (1 <<< 52)⟩

/-- The text of the number without its sign. -/
def magnitude (layout : Decimal.Layout) (parts : FloatParts) : String :=
  if parts.exponent = 2047 then
    if parts.fraction = 0 then "inf" else "NaN"
  else if parts.exponent = 0 ∧ parts.fraction = 0 then "0.0"
  else
    let shortest :=
      if parts.exponent = 0 then Decimal.shortest parts.fraction (-1074) false
      else
        let narrow := parts.fraction = 0 ∧ 1 < parts.exponent
        Decimal.shortest ((1 <<< 52) + parts.fraction) (parts.exponent - 1075) narrow
    String.ofList (shortest.layOut layout)

/-- The text of the number. -/
def text (layout : Decimal.Layout) (parts : FloatParts) : String :=
  if parts.exponent = 2047 ∧ parts.fraction ≠ 0 then parts.magnitude layout
  else (if parts.negative then "-" else "") ++ parts.magnitude layout

end FloatParts

end Nadesiko
