/-!
Finite binary floating-point numbers with a 53-bit significand, as exact data.
`Magnitude.round` is the one rounding rule (nearest, ties to even), and
`Magnitude.shortest` finds the fewest decimal digits that round back.
-/

namespace ClusterPower

/-- The magnitude `significand * 2 ^ exponent`. -/
structure Magnitude where
  significand : Nat
  exponent : Int
deriving DecidableEq, Repr

/-- A finite number with a sign of its own, so that zero has two forms. -/
structure Binary64 where
  negative : Bool
  magnitude : Magnitude
deriving DecidableEq, Repr

namespace Magnitude

/-! ## Rounding -/

def minExponent : Int := -1074

def maxExponent : Int := 971

def significandBound : Nat := Nat.pow 2 53

def leastNormal : Nat := Nat.pow 2 52

def zero : Magnitude := ⟨0, minExponent⟩

def power (base : Nat) (exponent : Int) : Nat × Nat :=
  (Nat.pow base exponent.toNat, Nat.pow base (-exponent).toNat)

/-- A quotient rounded to the nearest integer, a half to the even one. -/
def roundQuotient (numerator denominator : Nat) : Nat :=
  let quotient := numerator / denominator
  let twice := 2 * (numerator % denominator)
  if twice < denominator then quotient
  else if denominator < twice then quotient + 1
  else quotient + quotient % 2

/-- The exponent at which `numerator / denominator` has a 53-bit significand,
or the smallest exponent when it is too small for that. -/
def exponentOf (numerator denominator : Nat) : Int :=
  let estimate : Int := (numerator.log2 : Int) - denominator.log2 - 53
  let (up, down) := power 2 estimate
  let exponent :=
    if numerator * down / (denominator * up) < significandBound then estimate else estimate + 1
  max exponent minExponent

/-- The number nearest to a positive fraction; `none` beyond the largest one. -/
def round (numerator denominator : Nat) : Option Magnitude :=
  if numerator = 0 then some zero
  else
    let exponent := exponentOf numerator denominator
    let (up, down) := power 2 exponent
    let significand := roundQuotient (numerator * down) (denominator * up)
    let (significand, exponent) :=
      if significand = significandBound then (leastNormal, exponent + 1) else (significand, exponent)
    if exponent ≤ maxExponent then some ⟨significand, exponent⟩ else none

def fraction (magnitude : Magnitude) : Nat × Nat :=
  let (up, down) := power 2 magnitude.exponent
  (magnitude.significand * up, down)

def ofNat (value : Nat) : Option Magnitude :=
  round value 1

def times (left right : Magnitude) : Option Magnitude :=
  let (n, d) := left.fraction
  let (n', d') := right.fraction
  round (n * n') (d * d')

def dividedBy (left right : Magnitude) : Option Magnitude :=
  let (n, d) := left.fraction
  let (n', d') := right.fraction
  round (n * d') (d * n')

example : round 1 10 = some ⟨0x1999999999999A, -56⟩ := by decide +kernel

example : round (Nat.pow 10 309) 1 = none := by decide +kernel

/-! ## Scaling by powers of ten

A decimal numeral is read as an integer and a power of ten. Each step rounds:
the integer, the power (up to `10 ^ 308`), and their product or quotient. -/

def largestTen : Nat := 308

def ten (exponent : Nat) : Option Magnitude :=
  ofNat (Nat.pow 10 exponent)

def lower (value : Magnitude) : Nat → Option Magnitude
  | 0 => some value
  | times + 1 =>
    if value.significand = 0 then some value
    else
      match ten largestTen with
      | some divisor => (value.dividedBy divisor).bind (lower · times)
      | none => none

/-- Divide by `10 ^ exponent`, in steps of at most `10 ^ 308`. -/
def scaleDown (value : Magnitude) (exponent : Nat) : Option Magnitude := do
  let times := (exponent - 1) / largestTen
  let lowered ← value.lower times
  lowered.dividedBy (← ten (exponent - times * largestTen))

/-- `value * 10 ^ exponent`; `none` beyond the largest finite number. -/
def scaleByTen (value : Magnitude) (exponent : Int) : Option Magnitude :=
  if 0 ≤ exponent then
    if value.significand = 0 then some value
    else if exponent.toNat ≤ largestTen then do value.times (← ten exponent.toNat)
    else none
  else scaleDown value (-exponent).toNat

/-! ## Shortest decimals -/

/-- Digits and the decimal exponent of the first of them. -/
structure Decimal where
  digits : List Nat
  exponent : Int
deriving DecidableEq, Repr

/-- Whether `10 ^ exponent` is at most the value. -/
def atLeastTen (value : Magnitude) (exponent : Int) : Bool :=
  let (n, d) := value.fraction
  let (up, down) := power 10 exponent
  up * d ≤ n * down

def decimalExponent (value : Magnitude) : Int :=
  let estimate := ((value.significand.log2 : Int) + value.exponent) * 30103 / 100000
  if value.atLeastTen (estimate + 1) then estimate + 1
  else if value.atLeastTen estimate then estimate
  else estimate - 1

/-- The decimal with the given number of digits nearest to the value, if it
rounds back to it. Halves of the last binary place bound the numbers that do;
the bounds belong to them when the significand is even. -/
def decimalOfWidth? (value : Magnitude) (width : Nat) : Option Nat :=
  let place := value.decimalExponent + 1 - width
  let (tenUp, tenDown) := power 10 place
  let (twoUp, twoDown) := power 2 (value.exponent - 2)
  let unit := tenUp * twoDown
  let scaled (quarters : Nat) := quarters * twoUp * tenDown
  let middle := scaled (4 * value.significand)
  let below :=
    if value.significand = leastNormal ∧ minExponent < value.exponent then 1 else 2
  let low := scaled (4 * value.significand - below)
  let high := scaled (4 * value.significand + 2)
  let fits (candidate : Nat) : Bool :=
    if value.significand % 2 = 0 then low ≤ candidate * unit && candidate * unit ≤ high
    else low < candidate * unit && candidate * unit < high
  let floor := middle / unit
  let nearer :=
    if middle - floor * unit < (floor + 1) * unit - middle then floor
    else if (floor + 1) * unit - middle < middle - floor * unit then floor + 1
    else floor + floor % 2
  let farther := if nearer = floor then floor + 1 else floor
  if fits nearer then some nearer
  else if fits farther then some farther
  else none

def digitsOf (value : Nat) : List Nat :=
  (Nat.toDigits 10 value).map fun digit => digit.toNat - '0'.toNat

/-- Drop the zeros at the end, all but the first digit. -/
def trimZeros (digits : List Nat) : List Nat :=
  match (digits.reverse.dropWhile (· == 0)).reverse with
  | [] => [0]
  | trimmed => trimmed

def shortest (value : Magnitude) : Decimal :=
  if value.significand = 0 then ⟨[0], 0⟩
  else
    match (List.range 17).findSome? fun index =>
        (value.decimalOfWidth? (index + 1)).map fun candidate => (index + 1, candidate) with
    | some (width, candidate) =>
      let digits := digitsOf candidate
      ⟨trimZeros digits,
        value.decimalExponent + ((digits.length : Int) - width)⟩
    | none => ⟨[0], 0⟩

example : (round 1 10).map shortest = some ⟨[1], -1⟩ := by decide +kernel

example : shortest ⟨1, -1074⟩ = ⟨[5], -324⟩ := by decide +kernel

example : (round 100000 1).map shortest = some ⟨[1], 5⟩ := by decide +kernel

end Magnitude

end ClusterPower
