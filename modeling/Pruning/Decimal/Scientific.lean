/-!
Floating-point numbers from decimal digits.
-/

namespace Pruning.Decimal

/-- The number that decimal digits stand for. -/
def natural (digits : List Char) : Nat :=
  digits.foldl (fun n c => n * 10 + (c.toNat - 48)) 0

/-- The floating-point number nearest to `mantissa * 10 ^ power`. -/
def float (mantissa : Nat) (power : Int) : Float :=
  let digits : Int := (toString mantissa).length
  if mantissa = 0 ∨ digits + power < -400 then 0.0
  else if 400 < digits + power then 1.0 / 0.0
  else Float.ofScientific mantissa (power < 0) power.natAbs

end Pruning.Decimal
