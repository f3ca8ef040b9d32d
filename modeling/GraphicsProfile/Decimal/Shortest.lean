/-!
The shortest decimal that reads back as a given binary number.

A positive binary number is `significand * 2 ^ exponent`. The reals that round to it form an
interval around it, whose ends belong to it when the significand is even. Of all decimals in that
interval the shortest has the fewest digits, of those it is the nearest, and of two equally near
ones it has the even last digit. All arithmetic is on natural numbers and exact.
-/

namespace GraphicsProfile.Decimal

structure Binary where
  significand : Nat
  exponent : Int
  /-- Whether the next smaller number lies on a finer grid, at half the usual distance. -/
  finerBelow : Bool
  deriving DecidableEq

structure Scaled where
  digits : Nat
  exponent : Int
  deriving DecidableEq

def Binary.ofFloat (value : Float) : Binary :=
  let bits : Nat := value.toBits.toNat
  let fraction : Nat := bits % 0x10000000000000
  let biased : Nat := bits / 0x10000000000000 % 0x800
  if biased = 0 then ⟨fraction, -1074, false⟩
  else ⟨0x10000000000000 + fraction, (biased : Int) - 1075, fraction == 0 && biased != 1⟩

structure Ratio where
  num : Nat
  den : Nat

def Ratio.scaled (count : Nat) (twos tens : Int) : Ratio :=
  ⟨count * Nat.pow 2 twos.toNat * Nat.pow 10 (-tens).toNat,
    Nat.pow 2 (-twos).toNat * Nat.pow 10 tens.toNat⟩

/-- Whether `candidate` grid points of width `10 ^ tens` make a number that rounds to `value`. -/
def Binary.admits (value : Binary) (tens : Int) (candidate : Nat) : Bool :=
  let unit := Ratio.scaled 1 (value.exponent - 2) tens
  let centre := 4 * value.significand
  let lower := (centre - if value.finerBelow then 1 else 2) * unit.num
  let upper := (centre + 2) * unit.num
  let point := candidate * unit.den
  if value.significand % 2 = 0 then lower ≤ point && point ≤ upper
  else lower < point && point < upper

/-- The grid point of width `10 ^ tens` that stands for `value`, if one rounds to it. Only the two
neighbours of the value need a look, since the interval contains the value. -/
def Binary.onGrid? (value : Binary) (tens : Int) : Option Nat :=
  let quotient := Ratio.scaled value.significand value.exponent tens
  let below := quotient.num / quotient.den
  let above := below + 1
  let toBelow := quotient.num - below * quotient.den
  let toAbove := above * quotient.den - quotient.num
  match value.admits tens below && below != 0, value.admits tens above with
  | true, true =>
    if toBelow < toAbove || (toBelow = toAbove && below % 2 = 0) then some below else some above
  | true, false => some below
  | false, true => some above
  | false, false => none

def Binary.search (value : Binary) (tens : Int) : Nat → Option Scaled
  | 0 => none
  | tries + 1 =>
    match value.onGrid? tens with
    | some digits => some ⟨digits, tens⟩
    | none => value.search (tens - 1) tries

def digitCount (number : Nat) : Nat :=
  (Nat.toDigits 10 number).length

/-- The exponent of the smallest power of ten above the value. No number of the format is as
small as `10 ^ -330`. -/
def Binary.magnitude (value : Binary) : Int :=
  let quotient := Ratio.scaled value.significand value.exponent (-330)
  digitCount (quotient.num / quotient.den) - 330

/-- The shortest decimal that rounds to `value`. Seventeen digits always reach it, and a power of
ten above the value needs one grid more. -/
def Binary.shortest (value : Binary) : Scaled :=
  (value.search value.magnitude 18).getD ⟨value.significand, 0⟩

end GraphicsProfile.Decimal
