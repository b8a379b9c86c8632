import VoiceSession.Decimal.Shortest
/-!
# Writing a double

A double is written from its shortest digits; the rest is a handful of decisions, one record
per output format (`Layout`): which magnitudes are written positionally, whether an integral
value keeps a `.0`, and whether a positive exponent carries a `+`.
-/

namespace VoiceSession.Decimal

structure Layout where
  positional : Option (Int × Int)
  integralSuffix : String
  exponentPlus : Bool

def Layout.json : Layout := { positional := some (-5, 16), integralSuffix := ".0", exponentPlus := true }

def Layout.plain : Layout := { positional := none, integralSuffix := "", exponentPlus := false }

def Layout.pointed : Layout := { positional := none, integralSuffix := ".0", exponentPlus := false }

private def zeros (n : Nat) : String := String.ofList (List.replicate n '0')

/-- Writes the digits `ds` (non-empty, no trailing zero) of a value `0.ds × 10^k`. -/
def Layout.writeDigits (l : Layout) (ds : String) (k : Int) : String :=
  let len : Int := ds.length
  let positional := match l.positional with
    | none => true
    | some (low, high) => low < k ∧ k ≤ high
  if positional then
    if len ≤ k then ds ++ zeros (k - len).toNat ++ l.integralSuffix
    else if 0 < k then
      String.ofList (ds.toList.take k.toNat) ++ "." ++ String.ofList (ds.toList.drop k.toNat)
    else "0." ++ zeros (-k).toNat ++ ds
  else
    let e := k - 1
    let mantissa := match ds.toList with
      | [d] => String.singleton d
      | d :: rest => String.singleton d ++ "." ++ String.ofList rest
      | [] => "0"
    let sign := if e < 0 then "-" else if l.exponentPlus then "+" else ""
    mantissa ++ "e" ++ sign ++ toString e.natAbs

/-- Writes a finite double; `NaN` and infinities are the caller's business. -/
def Layout.write (l : Layout) (x : Float) : String :=
  let bits := x.toBits
  let negative := bits >>> 63 == 1
  let sign := if negative then "-" else ""
  let magnitude := bits &&& 0x7FFFFFFFFFFFFFFF
  if magnitude == 0 then
    sign ++ "0" ++ l.integralSuffix
  else
    let (d, s) := Shortest.ofBits magnitude
    let ds := toString d
    sign ++ l.writeDigits ds (s + ds.length)

def Layout.writeAll (l : Layout) (x : Float) : String :=
  if x.isNaN then "NaN"
  else if x.isInf then (if x < 0 then "-inf" else "inf")
  else l.write x

end VoiceSession.Decimal
