/-!
Nonnegative numbers of double precision, computed exactly: a significand below `2 ^ 53` times a
power of two. Every operation gives the nearest such number to its exact result, and of two that
are equally near the one with the even significand.
-/

set_option autoImplicit false

namespace Chip8Inspector.Decimal

/-- The value `significand * 2 ^ exponent`. -/
structure Binary64 where
  significand : Nat
  exponent : Int
  deriving DecidableEq

namespace Binary64

def zero : Binary64 := ⟨0, -1074⟩

def fullSignificand : Nat := 4503599627370496

/-- The exponent of the last bit of the smallest number above zero. -/
def leastExponent : Int := -1074

def greatestExponent : Int := 971

/-- The quotient to the nearest whole number, and to the even one of two that are equally
near. -/
def divideNearest (numerator denominator : Nat) : Nat :=
  let quotient := numerator / denominator
  let twice := 2 * (numerator % denominator)
  if twice < denominator then quotient
  else if denominator < twice then quotient + 1
  else quotient + quotient % 2

/-- The quotient of two numbers as a pair of which the first, over the second, is the quotient
divided by a power of two. -/
def scaled (numerator denominator : Nat) (exponent : Int) : Nat × Nat :=
  (numerator * Nat.pow 2 (-exponent).toNat, denominator * Nat.pow 2 exponent.toNat)

def leadingExponent (numerator denominator : Nat) : Int :=
  let guess := (Nat.log2 numerator : Int) - Nat.log2 denominator
  let (above, below) := scaled numerator denominator guess
  if below ≤ above then guess else guess - 1

def nearest (numerator denominator : Nat) : Option Binary64 :=
  if numerator = 0 then some zero
  else
    let exponent := max leastExponent (leadingExponent numerator denominator - 52)
    let (above, below) := scaled numerator denominator exponent
    let rounded := divideNearest above below
    let result : Binary64 :=
      if rounded = 2 * fullSignificand then ⟨fullSignificand, exponent + 1⟩
      else ⟨rounded, exponent⟩
    if greatestExponent < result.exponent then none else some result

def numerator (number : Binary64) : Nat :=
  number.significand * Nat.pow 2 number.exponent.toNat

def denominator (number : Binary64) : Nat :=
  Nat.pow 2 (-number.exponent).toNat

def times (left right : Binary64) : Option Binary64 :=
  nearest (left.numerator * right.numerator) (left.denominator * right.denominator)

def dividedBy (left right : Binary64) : Option Binary64 :=
  nearest (left.numerator * right.denominator) (left.denominator * right.numerator)

def powerOfTen (exponent : Nat) : Option Binary64 :=
  nearest (Nat.pow 10 exponent) 1

/-- The number times a negative power of ten, in steps that the largest power of ten can take,
each of them rounded. -/
def shrink (number : Binary64) (exponent : Nat) : Option Binary64 :=
  if number.significand = 0 then some number
  else if exponent ≤ 308 then do
    number.dividedBy (← powerOfTen exponent)
  else do
    let smaller ← number.dividedBy (← powerOfTen 308)
    shrink smaller (exponent - 308)
termination_by exponent

/-- A number given by decimal digits and a power of ten, rounded once for the digits, once for
the power and once for their product or quotient. `none` when it is too large. -/
def ofDecimal (digits : Nat) (exponent : Int) : Option Binary64 := do
  let number ← nearest digits 1
  if exponent < 0 then number.shrink (-exponent).toNat
  else if number.significand = 0 then some number
  else if exponent ≤ 308 then number.times (← powerOfTen exponent.toNat)
  else none

end Binary64

end Chip8Inspector.Decimal
