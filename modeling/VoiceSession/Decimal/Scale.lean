import VoiceSession.Decimal.Nearest
/-!
# Scaling a significand by a power of ten

The number reader turns `digits · 10^exponent` into a double with one floating product or
quotient by a tabled power of ten. That is not always the nearest double (the significand is
rounded first, then the product), and this module keeps exactly that arithmetic:
-/

namespace VoiceSession.Decimal

/-- `f / 10^k` with the reader's steps: a single quotient inside the table, repeated
quotients by `1e308` below it. -/
def divideByPowerOfTen (f : Float) (k : Nat) : Float :=
  if k < 309 then f / powerOfTen k
  else if f == 0 then f
  else divideByPowerOfTen (f / powerOfTen 308) (k - 308)
termination_by k
decreasing_by omega

/-- `f · 10^k`, or `none` when the product is infinite or the power is past the table while
`f` is not zero. -/
def multiplyByPowerOfTen (f : Float) (k : Nat) : Option Float :=
  if k < 309 then
    let r := f * powerOfTen k
    if r.isInf then none else some r
  else if f == 0 then some f
  else none

/-- The double the reader gives for `significand · 10^exponent` with the given sign, or
`none` when it is out of range. -/
def scale (positive : Bool) (significand : Nat) (exponent : Int) : Option Float :=
  let f := nearestDouble significand
  let magnitude := match exponent with
    | .ofNat k => multiplyByPowerOfTen f k
    | .negSucc k => some (divideByPowerOfTen f (k + 1))
  magnitude.map fun m => if positive then m else -m

end VoiceSession.Decimal
