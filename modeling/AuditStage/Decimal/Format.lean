import AuditStage.Decimal.Shortest

/-! How a floating point number is written: shortest digits, positional in the middle range. -/

namespace AuditStage.Decimal

/-- Which numbers are written without an exponent. -/
structure Style where
  /-- The least exponent of the leading digit that is still written positionally. -/
  leastPositional : Int
  /-- The greatest exponent of the leading digit that is still written positionally. -/
  greatestPositional : Int

/-- Numbers from a hundred-thousandth to below ten to the sixteenth have no exponent. -/
def Style.plain : Style :=
  ⟨-5, 15⟩

/-- A positive decimal in the given style, always with a point or an exponent. -/
def Style.write (style : Style) (digits : Nat) (exponent : Int) : List Char :=
  let ds := Nat.toDigits 10 digits
  let leading := exponent + ds.length - 1
  if style.leastPositional ≤ leading && leading ≤ style.greatestPositional then
    if 0 ≤ exponent then ds ++ List.replicate exponent.toNat '0' ++ ['.', '0']
    else if 0 ≤ leading then
      let whole := (leading + 1).toNat
      ds.take whole ++ ['.'] ++ ds.drop whole
    else ['0', '.'] ++ List.replicate (-leading - 1).toNat '0' ++ ds
  else
    let mantissa := if ds.length = 1 then ds else ds.take 1 ++ ['.'] ++ ds.drop 1
    let sign := if leading < 0 then '-' else '+'
    mantissa ++ ['e', sign] ++ Nat.toDigits 10 leading.natAbs

/-- The text of a floating point number in the given style. -/
def Style.text (style : Style) (value : Float) : String :=
  let bits := value.toBits
  let sign := if Nat.pow 2 63 ≤ bits.toNat then "-" else ""
  if value.isNaN then "NaN"
  else if value.isInf then sign ++ "inf"
  else if bits.toNat % Nat.pow 2 63 = 0 then sign ++ "0.0"
  else
    let (digits, exponent) := (ofBits bits).shortest
    sign ++ String.ofList (style.write digits exponent)

end AuditStage.Decimal
