/-! The shortest decimal that reads back as a given binary fraction. -/

namespace AuditStage.Decimal

/-- A positive number `mantissa * 2 ^ exponent` and the reals that round to it. -/
structure Binary where
  mantissa : Nat
  exponent : Int
  /-- Whether the neighbour below is only half as far away as the one above. -/
  narrowBelow : Bool

/-- A quotient of natural numbers. -/
structure Ratio where
  num : Nat
  den : Nat

namespace Ratio

/-- The ratio `value * base ^ exponent`. -/
def scaled (value base : Nat) (exponent : Int) : Ratio :=
  if 0 ≤ exponent then ⟨value * Nat.pow base exponent.toNat, 1⟩
  else ⟨value, Nat.pow base (-exponent).toNat⟩

/-- Whether one ratio is below another, both with positive denominators. -/
def lt (a b : Ratio) : Bool :=
  a.num * b.den < b.num * a.den

/-- The distance between two ratios. -/
def distance (a b : Ratio) : Ratio :=
  -- Of the two truncated differences at least one is zero.
  ⟨(a.num * b.den - b.num * a.den) + (b.num * a.den - a.num * b.den), a.den * b.den⟩

end Ratio

namespace Binary

/-- The number itself. -/
def ratio (x : Binary) : Ratio :=
  .scaled x.mantissa 2 x.exponent

/-- The lower end of the reals that round to the number. -/
def lower (x : Binary) : Ratio :=
  .scaled (4 * x.mantissa - (if x.narrowBelow then 1 else 2)) 2 (x.exponent - 2)

/-- The upper end of the reals that round to the number. -/
def upper (x : Binary) : Ratio :=
  .scaled (4 * x.mantissa + 2) 2 (x.exponent - 2)

/-- Whether a ratio rounds to the number; the ends do when the mantissa is even. -/
def accepts (x : Binary) (r : Ratio) : Bool :=
  if x.mantissa % 2 = 0 then !r.lt x.lower && !x.upper.lt r
  else x.lower.lt r && r.lt x.upper

/-- The exponent of the leading decimal digit. -/
def leadingExponent (x : Binary) : Int :=
  let r := x.ratio
  let whole := r.num / r.den
  if 0 < whole then (Nat.toDigits 10 whole).length - 1
  else
    -- Below one, the count of decimal places before the first digit decides.
    let places := (Nat.toDigits 10 (r.den / r.num)).length
    if r.den ≤ r.num * Nat.pow 10 (places - 1) then 1 - (places : Int) else -(places : Int)

/-- The best decimal with the given count of digits that still reads back, if there is one. -/
def withDigits? (x : Binary) (count : Nat) : Option (Nat × Int) :=
  let step := x.leadingExponent - (count : Int) + 1
  let r := x.ratio
  -- The two neighbours of the number on the decimal grid of this step.
  let unit := Ratio.scaled 1 10 step
  let below := r.num * unit.den / (r.den * unit.num)
  let low := Ratio.scaled below 10 step
  let high := Ratio.scaled (below + 1) 10 step
  match x.accepts low, x.accepts high with
  | false, false => none
  | true, false => some (below, step)
  | false, true => some (below + 1, step)
  | true, true =>
    let down := r.distance low
    let up := r.distance high
    if up.lt down || (!down.lt up && below % 2 = 1) then some (below + 1, step)
    else some (below, step)

/-- A decimal without trailing zeros, the same number by a larger exponent. -/
def stripZeros : Nat → Nat → Int → Nat × Int
  | 0, digits, exponent => (digits, exponent)
  | fuel + 1, digits, exponent =>
    if digits ≠ 0 && digits % 10 = 0 then stripZeros fuel (digits / 10) (exponent + 1)
    else (digits, exponent)

/-- The fewest digits that read back, and the exponent of the last of them. -/
def shortest (x : Binary) : Nat × Int :=
  -- Seventeen digits always tell two neighbouring numbers apart.
  match (List.range 17).findSome? fun count => x.withDigits? (count + 1) with
  | some (digits, exponent) => stripZeros 20 digits exponent
  | none => (x.mantissa, 0)

end Binary

/-- The parts of a finite double precision number other than zero, without its sign. -/
def ofBits (bits : UInt64) : Binary :=
  let fraction : Nat := bits.toNat % Nat.pow 2 52
  let biased : Nat := bits.toNat / Nat.pow 2 52 % Nat.pow 2 11
  if biased = 0 then ⟨fraction, -1074, false⟩
  else ⟨fraction + Nat.pow 2 52, (biased : Int) - 1075, fraction = 0 && 1 < biased⟩

end AuditStage.Decimal
