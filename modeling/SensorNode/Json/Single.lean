import SensorNode.Json.Decode
import SensorNode.Number.Decimal

/-!
# Single precision numbers in JSON

A number is read in two steps, first to double precision and then to single; only an integer of at
most 64 bits goes to single precision at once. The leading digits that fit into 64 bits are the
significand, one multiplication or division by a power of ten follows, and a result beyond double
precision is an error. A number beyond single precision only is infinite.

A finite number is written with the fewest digits that read back. The point stands among the digits
from 0.000001 to below ten million million and always has a digit behind it; other numbers have an
exponent. What is not finite is written `null`.
-/

namespace SensorNode.Json

namespace Number

/-- Append digits to a number while it stays within 64 bits, and hand back the digits left. -/
def appendDigits : Nat → List Char → Nat × List Char
  | n, [] => (n, [])
  | n, d :: ds =>
    let next := 10 * n + (d.toNat - 48)
    if next < Nat.pow 2 64 then appendDigits next ds else (n, d :: ds)

/-- The value of the exponent as written. -/
def writtenExponent (n : Number) : Int :=
  match n.exponent with
  | none => 0
  | some e =>
    let value := Nat.ofDigitChars 10 e.digits 0
    if e.negative then -(value : Int) else value

/-- Ten to a power of at most 308, as near as double precision gets. -/
def powerOfTen (n : Nat) : Float := Float.ofScientific 1 false n

/-- A significand times a power of ten, unless it is beyond double precision. -/
def scale? (significand : Nat) (exponent : Int) : Option Float :=
  let x := significand.toUInt64.toFloat
  if significand = 0 then some 0
  else if 308 < exponent then none
  else if 0 ≤ exponent then
    let scaled := x * powerOfTen exponent.toNat
    if scaled.isInf then none else some scaled
  else
    let down := (-exponent).toNat
    if down ≤ 308 then some (x / powerOfTen down)
    else if down ≤ 616 then some (x / powerOfTen 308 / powerOfTen (down - 308))
    else some 0

def float32? (n : Number) : Option Float32 :=
  let (integer, rest) := appendDigits 0 n.whole
  if n.fraction.isNone && n.exponent.isNone && rest.isEmpty
      && !(n.negative && Nat.pow 2 63 < integer) then
    let x := integer.toUInt64.toFloat32
    some (if n.negative then -x else x)
  else
    let fraction := n.fraction.getD []
    let (significand, unused) := appendDigits integer fraction
    let exponent := (rest.length : Int) - (fraction.length - unused.length : Nat)
      + n.writtenExponent
    (scale? significand exponent).map fun x =>
      SensorNode.Number.narrow (if n.negative then -x else x)

/-- A finite number in its shortest form. -/
def ofMagnitude (negative : Bool) (x : Number.Magnitude) : Number :=
  match x.shortest? with
  | none => ⟨negative, ['0'], some ['0'], none⟩
  | some decimal =>
    let digits := (toString decimal.digits).toList
    let point := digits.length + decimal.exponent
    if 0 ≤ decimal.exponent ∧ point ≤ 13 then
      ⟨negative, digits ++ List.replicate decimal.exponent.toNat '0', some ['0'], none⟩
    else if 0 < point ∧ point ≤ 13 then
      ⟨negative, digits.take point.toNat, some (digits.drop point.toNat), none⟩
    else if -6 < point ∧ point ≤ 0 then
      ⟨negative, ['0'], some (List.replicate (-point).toNat '0' ++ digits), none⟩
    else
      let fraction := if digits.length = 1 then none else some (digits.drop 1)
      let power := point - 1
      ⟨negative, digits.take 1, fraction, some ⟨power < 0, (toString power.natAbs).toList⟩⟩

end Number

def float32? : Json → Option Float32
  | number n => n.float32?
  | _ => none

def single (x : Float32) : Json :=
  match SensorNode.Number.parts x with
  | .finite negative magnitude => number (Number.ofMagnitude negative magnitude)
  | _ => null

end SensorNode.Json
