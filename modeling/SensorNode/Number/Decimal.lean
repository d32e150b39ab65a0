import SensorNode.Number.Single

/-!
# Decimal text of single precision numbers

`shortest?` finds the decimal with the fewest digits that reads back as the same number, and of
those the nearest; between two equally near ones the even digit wins. `fixed` rounds the exact value
to a number of places, a half to the even neighbour.

## Implementation notes

All numbers that read back as a given one form an interval around it; its ends belong to it when
the significand is even. If any multiple of a power of ten lies in the interval, then so does one of
the two multiples next to the number. So it is enough to test these two for each power of ten, from
the largest down. Everything is multiplied by a common power of two to stay within whole numbers.
-/

namespace SensorNode.Number

/-- A decimal: the digits as a number, times ten to the exponent. -/
structure Decimal where
  digits : Nat
  exponent : Int
deriving DecidableEq, Repr

/-- A magnitude and the interval of what reads back as it, as numerators over one denominator. -/
structure Interval where
  low : Nat
  middle : Nat
  high : Nat
  denominator : Nat
  closed : Bool

namespace Magnitude

def interval (x : Magnitude) : Interval :=
  let unit := Nat.pow 2 (x.exponent - 2).toNat
  { low := (4 * x.significand - if x.edge then 1 else 2) * unit
    middle := 4 * x.significand * unit
    high := (4 * x.significand + 2) * unit
    denominator := Nat.pow 2 (2 - x.exponent).toNat
    closed := x.significand % 2 = 0 }

end Magnitude

namespace Interval

/-- Multiply out the power of ten of a grid. -/
def onGrid (i : Interval) (exponent : Int) : Interval :=
  let down := Nat.pow 10 (-exponent).toNat
  { i with
    low := i.low * down
    middle := i.middle * down
    high := i.high * down
    denominator := i.denominator * Nat.pow 10 exponent.toNat }

def contains (i : Interval) (n : Nat) : Bool :=
  let x := n * i.denominator
  (i.low < x && x < i.high) || (i.closed && (i.low = x || x = i.high))

/-- The whole number in the interval that is nearest to its middle, if one next to it is inside. -/
def nearest? (i : Interval) : Option Nat :=
  let below := i.middle / i.denominator
  match i.contains below, i.contains (below + 1) with
  | true, true =>
    let fromBelow := i.middle - below * i.denominator
    let fromAbove := (below + 1) * i.denominator - i.middle
    if fromBelow < fromAbove ∨ (fromBelow = fromAbove ∧ below % 2 = 0) then some below
    else some (below + 1)
  | true, false => some below
  | false, true => some (below + 1)
  | false, false => none

end Interval

namespace Magnitude

/-- The powers of ten that single precision reaches, the largest first. -/
def gridExponents : List Int := (List.range 86).map fun (n : Nat) => (39 : Int) - n

/-- The shortest decimal of a magnitude other than zero. -/
def shortest? (x : Magnitude) : Option Decimal :=
  if x.significand = 0 then none
  else gridExponents.findSome? fun exponent =>
    (x.interval.onGrid exponent).nearest?.map fun digits => ⟨digits, exponent⟩

/-- The value in units of the last of some places, a half rounded to even. -/
def roundTo (places : Nat) (x : Magnitude) : Nat :=
  roundedQuotient (x.significand * Nat.pow 2 x.exponent.toNat * Nat.pow 10 places)
    (Nat.pow 2 (-x.exponent).toNat)

end Magnitude

/-- A sign before a text. -/
def signed (negative : Bool) (s : String) : String := if negative then "-" ++ s else s

/-- The exact value rounded to some places, at least one. -/
def fixed (places : Nat) (x : Float32) : String :=
  match parts x with
  | .nan => "NaN"
  | .infinite negative => signed negative "inf"
  | .finite negative magnitude =>
    let units := magnitude.roundTo places
    let fraction := toString (units % Nat.pow 10 places)
    let zeros := String.ofList (List.replicate (places - fraction.length) '0')
    signed negative (toString (units / Nat.pow 10 places) ++ "." ++ zeros ++ fraction)

/-- The shortest decimal written out without an exponent. -/
def plain (x : Float32) : String :=
  match parts x with
  | .nan => "NaN"
  | .infinite negative => signed negative "inf"
  | .finite negative magnitude =>
    signed negative <|
      match magnitude.shortest? with
      | none => "0"
      | some decimal =>
        let digits := (toString decimal.digits).toList
        let point := digits.length + decimal.exponent
        String.ofList <|
          if 0 ≤ decimal.exponent then digits ++ List.replicate decimal.exponent.toNat '0'
          else if 0 < point then digits.take point.toNat ++ '.' :: digits.drop point.toNat
          else '0' :: '.' :: List.replicate (-point).toNat '0' ++ digits

example : plain 0.1 = "0.1" := by decide +kernel

example : fixed 1 0.25 = "0.2" := by decide +kernel

end SensorNode.Number
