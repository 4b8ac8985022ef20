import Chip8Inspector.Decimal.Binary64
import Chip8Inspector.Text.Number

/-!
The shortest decimal text of a number of double precision: as few digits as single the number
out among its neighbours, and of those the nearest to it. Small exponents are written out,
others behind an `e`.
-/

set_option autoImplicit false

namespace Chip8Inspector.Decimal

/-- The value `digits * 10 ^ exponent`. -/
structure DecimalForm where
  digits : Nat
  exponent : Int

/-- The numbers that round to a number of double precision, and that number itself, all in
units so small that they are whole: `low` and `high` belong to it when `closed`. -/
structure Interval where
  low : Nat
  value : Nat
  high : Nat
  closed : Bool
  unit : Nat

/-- Halfway to the neighbour on either side. The neighbour below the first number of its
exponent is only half as far away. -/
def Interval.of (number : Binary64) : Interval :=
  let quarter := Nat.pow 2 number.exponent.toNat
  let narrow :=
    number.significand = Binary64.fullSignificand ∧
      Binary64.leastExponent < number.exponent
  { low := (4 * number.significand - if narrow then 1 else 2) * quarter
    value := 4 * number.significand * quarter
    high := (4 * number.significand + 2) * quarter
    closed := number.significand % 2 = 0
    unit := 4 * number.denominator }

def Interval.contains (interval : Interval) (point : Nat) : Bool :=
  if interval.closed then interval.low ≤ point && point ≤ interval.high
  else interval.low < point && point < interval.high

/-- The multiple of a power of ten that lies in the interval nearest to its value, if one does:
only the two around the value can. -/
def Interval.onGrid (interval : Interval) (exponent : Int) : Option DecimalForm :=
  let stretch := Nat.pow 10 (-exponent).toNat
  let cell := Nat.pow 10 exponent.toNat * interval.unit
  let stretched : Interval :=
    { interval with
      low := interval.low * stretch
      value := interval.value * stretch
      high := interval.high * stretch }
  let below := stretched.value / cell
  let rest := stretched.value % cell
  let lower := stretched.contains (below * cell)
  let upper := stretched.contains ((below + 1) * cell)
  let lowerIsNearer := 2 * rest < cell || (2 * rest == cell && below % 2 == 0)
  if lower && (lowerIsNearer || !upper) then some ⟨below, exponent⟩
  else if upper then some ⟨below + 1, exponent⟩
  else none

def grids : List Int :=
  (List.range 654).map fun step : Nat => 309 - Int.ofNat step

def shortest (number : Binary64) : DecimalForm :=
  if number.significand = 0 then ⟨0, 0⟩
  else ((grids.findSome? (Interval.of number).onGrid).getD ⟨0, 0⟩)

def zeros (count : Nat) : List Char :=
  List.replicate count '0'

def exponentText (value : Int) : List Char :=
  (if value < 0 then '-' else '+') :: Text.decimalDigits value.natAbs

/-- Digits with the point where it belongs, or before the first digits and with an exponent
when the point would be more than sixteen digits to the right or five zeros to the left. -/
def layOut (form : DecimalForm) : List Char :=
  let digits := Text.decimalDigits form.digits
  let point := (digits.length : Int) + form.exponent
  if 0 ≤ form.exponent ∧ point ≤ 16 then digits ++ zeros form.exponent.toNat ++ ['.', '0']
  else if 0 < point ∧ point ≤ 16 then
    digits.take point.toNat ++ ['.'] ++ digits.drop point.toNat
  else if -5 < point ∧ point ≤ 0 then ['0', '.'] ++ zeros (-point).toNat ++ digits
  else
    (match digits with
      | [digit] => [digit]
      | first :: rest => first :: '.' :: rest
      | [] => []) ++ ['e'] ++ exponentText (point - 1)

def shortestText (negative : Bool) (number : Binary64) : String :=
  String.ofList <|
    (if negative then ['-'] else []) ++
      if number.significand = 0 then ['0', '.', '0'] else layOut (shortest number)

end Chip8Inspector.Decimal
