/-!
# Single precision numbers

A number of IEEE 754 single precision taken apart: a finite one is its significand times a power of
two. The parts are exact, so that decimal texts can be computed with whole numbers. A number of
double precision is rounded to one of single precision, a half to the even neighbour.
-/

namespace SensorNode.Number

/-- A finite magnitude: the significand times two to the exponent. `edge` tells that the next
smaller magnitude is only half as far away as the next larger one. -/
structure Magnitude where
  significand : Nat
  exponent : Int
  edge : Bool
deriving DecidableEq, Repr

inductive Parts where
  | nan
  | infinite (negative : Bool)
  | finite (negative : Bool) (magnitude : Magnitude)
deriving DecidableEq, Repr

/-- The parts of a number, from its sign bit, eight exponent bits and 23 fraction bits. -/
def parts (x : Float32) : Parts :=
  let bits : Nat := x.toBits.toNat
  let negative := bits / Nat.pow 2 31 = 1
  let field : Nat := bits / Nat.pow 2 23 % 256
  let fraction : Nat := bits % Nat.pow 2 23
  if field = 255 then
    if fraction = 0 then .infinite negative else .nan
  else if field = 0 then .finite negative ⟨fraction, -149, false⟩
  else .finite negative ⟨Nat.pow 2 23 + fraction, (field : Int) - 150, fraction = 0 && field ≠ 1⟩

example : parts 0.75 = .finite false ⟨3 * 2 ^ 22, -24, false⟩ := by decide +kernel

/-- The whole number nearest to a quotient, a half rounded to even. -/
def roundedQuotient (numerator denominator : Nat) : Nat :=
  let below := numerator / denominator
  let rest := 2 * (numerator % denominator)
  if denominator < rest ∨ (rest = denominator ∧ below % 2 = 1) then below + 1 else below

/-- Round to single precision. A magnitude whose rounding carries into the next exponent, or from
the subnormal numbers into the normal ones, has the bits of the sum. -/
def narrow (x : Float) : Float32 :=
  let bits : Nat := x.toBits.toNat
  let sign := bits / Nat.pow 2 63
  let field : Nat := bits / Nat.pow 2 52 % 2048
  let fraction : Nat := bits % Nat.pow 2 52
  let infinite := 255 * Nat.pow 2 23
  let magnitude :=
    if field = 2047 ∧ fraction ≠ 0 then infinite + Nat.pow 2 22
    else
      -- the significands differ by 29 bits, and by more below the least normal number
      let shift := if 897 ≤ field then 29 else 926 - field
      let rounded := roundedQuotient (Nat.pow 2 52 + fraction) (Nat.pow 2 shift)
      min infinite ((field - 897) * Nat.pow 2 23 + rounded)
  Float32.ofBits (UInt32.ofNat (sign * Nat.pow 2 31 + magnitude))

example : narrow 0.75 = 0.75 := by decide +kernel

end SensorNode.Number
