import VoiceSession.Decimal.Layout
/-!
# JSON numbers

A number read from JSON text is kept as the reader classifies it: an unsigned 64-bit integer,
a negative 64-bit integer, or a double. The double is held by its IEEE bits so that numbers,
and the values holding them, have decidable equality; `-0.0` and `0.0` are different numbers.
-/

namespace VoiceSession.Json

inductive Number where
  | unsigned (n : UInt64)
  | negative (n : Int64)
  | double (bits : UInt64)
  deriving DecidableEq, Repr, Inhabited

namespace Number

def ofFloat (x : Float) : Number := .double x.toBits

/-- JSON text of a number: integers exactly, doubles by `Layout.json`, and `null` for a
double that is not finite. -/
def write : Number → String
  | .unsigned n => toString n.toNat
  | .negative n => toString n.toInt
  | .double bits =>
    let x := Float.ofBits bits
    if x.isNaN || x.isInf then "null" else Decimal.Layout.json.write x

end Number

end VoiceSession.Json
