import Pruning.Text.Blank
import Pruning.Text.Quoted

/-!
Decimal digits of every script, and the integers that they write. Each script has its ten digits in a row,
so the class is a list of zeros.
-/

namespace Pruning.Text

/-- The zero digits of all scripts, as code points in ascending order. -/
def decimalZeros : List Nat := [
    48, 1632, 1776, 1984, 2406, 2534, 2662, 2790, 2918, 3046, 3174, 3302, 3430, 3558, 3664, 3792,
    3872, 4160, 4240, 6112, 6160, 6470, 6608, 6784, 6800, 6992, 7088, 7232, 7248, 42528, 43216,
    43264, 43472, 43504, 43600, 44016, 65296, 66720, 68912, 69734, 69872, 69942, 70096, 70384,
    70736, 70864, 71248, 71360, 71472, 71904, 72016, 72784, 73040, 73120, 92768, 92864, 93008,
    120782, 120792, 120802, 120812, 120822, 123200, 123632, 125264, 130032]

/-- The value of a decimal digit of some script. -/
def digitValue (c : Char) : Option Nat :=
  (decimalZeros.find? fun first => first ≤ c.toNat && c.toNat < first + 10).map fun first =>
    c.toNat - first

/-- Whether a character is a decimal digit in some script. -/
def isDecimalDigit (c : Char) : Bool :=
  (digitValue c).isSome

/-- The number that digits write after `n`; a single underscore may stand between two of them, and `due`
tells whether a digit must come next. -/
def naturalFrom (n : Nat) (due : Bool) : List Char → Option Nat
  | [] => if due then none else some n
  | c :: rest =>
    match digitValue c with
    | some digit => naturalFrom (n * 10 + digit) false rest
    | none => if c = '_' && !due then naturalFrom n true rest else none

/-- Digits that write no number, such as raised or circled ones: the first and the last code point of each
stretch. -/
def otherDigits : List (Nat × Nat) := [
    (178, 179), (185, 185), (4969, 4977), (6618, 6618), (8304, 8304), (8308, 8313), (8320, 8329),
    (9312, 9320), (9332, 9340), (9352, 9360), (9450, 9450), (9461, 9469), (9471, 9471), (10102, 10110),
    (10112, 10120), (10122, 10130), (68160, 68163), (69216, 69224), (69714, 69722), (127232, 127242)]

/-- Whether a character is a digit, though it may write no number. -/
def isAnyDigit (c : Char) : Bool :=
  isDecimalDigit c || otherDigits.any fun stretch => stretch.1 ≤ c.toNat && c.toNat ≤ stretch.2

/-- The most digits that an integer is read from. -/
def maxDigits : Nat := 4300

/-- What is told about an integer with too many digits. -/
def longNumberMessage (digits : Nat) : String :=
  s!"Exceeds the limit ({maxDigits} digits) for integer string conversion: value has {digits} digits; " ++
    "use sys.set_int_max_str_digits() to increase the limit"

/-- What is told about a text that is no integer. -/
def noIntegerMessage (text : String) : String :=
  "invalid literal for int() with base 10: " ++ String.ofList ((quoted text).toList.take 200)

/-- The integer that a text writes, with a sign or without one, or what is told if there is none. -/
def integer (text : String) : Except String Int :=
  let (isNegative, unsigned) : Bool × List Char :=
    match trim text.toList with
    | '-' :: rest => (true, rest)
    | '+' :: rest => (false, rest)
    | cs => (false, cs)
  let digits := (unsigned.takeWhile fun c => isDecimalDigit c || c = '_').countP isDecimalDigit
  if maxDigits < digits then .error (longNumberMessage digits)
  else
    match naturalFrom 0 true unsigned with
    | some n => .ok (if isNegative then -(n : Int) else n)
    | none => .error (noIntegerMessage text)

end Pruning.Text
