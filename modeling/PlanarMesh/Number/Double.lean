/-!
# The value of a double

A finite double is a whole number of the smallest positive double, `2 ^ -1074`.  This module
reads that number off the bit pattern.  It is the exact side of every statement about
coordinates: sums and products of the counts are the sums and products of the values, with
no rounding.
-/

namespace PlanarMesh

/-- What the bit pattern of a double denotes; `finite negative mantissa scale` is
`± mantissa * 2 ^ scale` smallest positive doubles. -/
inductive DoubleValue where
  | notANumber
  | infinite (negative : Bool)
  | finite (negative : Bool) (mantissa scale : Nat)

namespace DoubleValue

/-- Read the fields of a bit pattern: 52 bits of fraction, 11 of exponent, one of sign.
Exponent zero has no hidden leading bit and the scale of exponent one. -/
def ofBits (bits : Nat) : DoubleValue :=
  let negative := bits >>> 63 % 2 == 1
  let exponent := bits >>> 52 % 2048
  let fraction := bits % 1 <<< 52
  if exponent = 2047 then
    if fraction = 0 then infinite negative else notANumber
  else if exponent = 0 then finite negative fraction 0
  else finite negative (1 <<< 52 + fraction) (exponent - 1)

/-- What a double denotes. -/
def ofFloat (x : Float) : DoubleValue :=
  ofBits x.toBits.toNat

/-- The value as a multiple of the smallest positive double; zero for what has no finite
value. -/
def units : DoubleValue → Int
  | finite true mantissa scale => -(mantissa <<< scale : Nat)
  | finite false mantissa scale => (mantissa <<< scale : Nat)
  | _ => 0

end DoubleValue

/-- The value of a finite double as a multiple of `2 ^ -1074`. -/
def unitsOf (x : Float) : Int :=
  (DoubleValue.ofFloat x).units

end PlanarMesh
