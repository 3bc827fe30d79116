/-!
Floating-point numbers as decimal text: the fewest digits that read back to the same number, the
nearest such digits if there are several. A binary number is `mantissa * 2 ^ exponent` with natural
numbers throughout, so every comparison here is exact.
-/

namespace Pruning.Decimal

/-- A positive binary number, with the information that fixes which decimals read back to it:
`narrow` says that the next number below is only half as far away as the next one above. -/
structure Binary where
  mantissa : Nat
  exponent : Int
  narrow : Bool

/-- The digits of a positive decimal: `digits * 10 ^ exponent`. -/
structure Digits where
  digits : Nat
  exponent : Int

/-- `base ^ exponent` as a quotient of natural numbers. -/
def power (base : Nat) (exponent : Int) : Nat × Nat :=
  if 0 ≤ exponent then (base.pow exponent.toNat, 1) else (1, base.pow (-exponent).toNat)

/-- Compares `a * 10 ^ p` with `b * 2 ^ q`. -/
def compareScaled (a : Nat) (p : Int) (b : Nat) (q : Int) : Ordering :=
  let ten := power 10 p
  let two := power 2 q
  compare (a * ten.1 * two.2) (b * two.1 * ten.2)

/-- Whether a decimal reads back to `number`: it lies between the midpoints to the two neighbours, and
a midpoint itself reads as the even one. -/
def readsBack (number : Binary) (decimal : Digits) : Bool :=
  let belowMiddle :=
    if number.narrow then compareScaled decimal.digits decimal.exponent (4 * number.mantissa - 1) (number.exponent - 2)
    else compareScaled decimal.digits decimal.exponent (2 * number.mantissa - 1) (number.exponent - 1)
  let aboveMiddle :=
    compareScaled decimal.digits decimal.exponent (2 * number.mantissa + 1) (number.exponent - 1)
  let even := number.mantissa % 2 == 0
  (belowMiddle == .gt || (even && belowMiddle == .eq)) &&
    (aboveMiddle == .lt || (even && aboveMiddle == .eq))

/-- The two neighbours of `number` on the grid of multiples of `10 ^ exponent`. -/
def neighbours (number : Binary) (exponent : Int) : Nat × Nat :=
  let two := power 2 number.exponent
  let ten := power 10 exponent
  let below := number.mantissa * two.1 * ten.2 / (two.2 * ten.1)
  (below, below + 1)

/-- Whether the grid point `low` is nearer to `number` than the next one; at equal distance the even
one is taken. -/
def lowIsNearer (number : Binary) (low : Nat) (exponent : Int) : Bool :=
  match compareScaled (2 * low + 1) exponent (2 * number.mantissa) number.exponent with
  | .gt => true
  | .lt => false
  | .eq => low % 2 == 0

/-- The shortest decimal that reads back, tried on finer and finer grids. -/
def shortestFrom (number : Binary) (exponent : Int) : Nat → Digits
  | 0 => ⟨(neighbours number exponent).1, exponent⟩
  | fuel + 1 =>
    let (low, high) := neighbours number exponent
    let lowReads := low != 0 && readsBack number ⟨low, exponent⟩
    let highReads := readsBack number ⟨high, exponent⟩
    if lowReads && (!highReads || lowIsNearer number low exponent) then ⟨low, exponent⟩
    else if highReads then ⟨high, exponent⟩
    else shortestFrom number (exponent - 1) fuel

/-- Drops the zeros at the end of the digits. -/
def Digits.stripped (decimal : Digits) : Nat → Digits
  | 0 => decimal
  | fuel + 1 =>
    if decimal.digits != 0 && decimal.digits % 10 == 0 then
      Digits.stripped ⟨decimal.digits / 10, decimal.exponent + 1⟩ fuel
    else decimal

/-- The shortest decimal of a positive binary number below `2 ^ 1024`. -/
def shortest (number : Binary) : Digits :=
  (shortestFrom number 309 640).stripped 640

/-- Writes a positive decimal: positionally with at least one place after the point when the point
falls no more than four places before and sixteen after the first digit, with an exponent otherwise. -/
def Digits.text (decimal : Digits) : String :=
  let digits := (toString decimal.digits).toList
  let point : Int := digits.length + decimal.exponent
  if -4 < point ∧ point ≤ 16 then
    if point ≤ 0 then
      String.ofList ('0' :: '.' :: List.replicate (-point).toNat '0' ++ digits)
    else
      let whole := digits.take point.toNat ++ List.replicate (point.toNat - digits.length) '0'
      let places := digits.drop point.toNat
      String.ofList (whole ++ '.' :: (if places.isEmpty then ['0'] else places))
  else
    let places := digits.drop 1
    let power := point - 1
    let size := toString power.natAbs
    let mark := if power < 0 then '-' else '+'
    String.ofList (digits.take 1 ++ (if places.isEmpty then [] else '.' :: places) ++ ['e', mark] ++
      (if size.length < 2 then ['0'] else []) ++ size.toList)

/-- A floating-point number as text. -/
def floatText (x : Float) : String :=
  if x.isNaN then "nan"
  else
    let bits : Nat := x.toBits.toNat
    let sign := if bits >>> 63 = 1 then "-" else ""
    let biased : Nat := (bits >>> 52) % 2048
    let fraction : Nat := bits % (1 <<< 52)
    if biased = 2047 then sign ++ "inf"
    else if biased = 0 ∧ fraction = 0 then sign ++ "0.0"
    else if biased = 0 then sign ++ (shortest ⟨fraction, -1074, false⟩).text
    else sign ++ (shortest ⟨(1 <<< 52) + fraction, Int.ofNat biased - 1075, fraction == 0 && 1 < biased⟩).text

end Pruning.Decimal
