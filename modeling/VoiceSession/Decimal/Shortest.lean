/-!
# Shortest decimal digits of a double

`Shortest.digits` finds the fewest decimal digits whose value reads back as the given double (the
interval between the midpoints to its neighbours, ends included when the significand is even),
the nearer of two, a tie going to the even digit. All comparisons are exact on naturals.
-/

namespace VoiceSession.Decimal.Shortest

structure Binary where
  mantissa : Nat
  exponent : Int
  narrowBelow : Bool
  deriving Repr

/-- Splits the bits of a finite double into sign, mantissa and binary exponent. -/
def Binary.ofBits (bits : UInt64) : Binary :=
  let biased := ((bits >>> 52) &&& 0x7FF).toNat
  let fraction := (bits &&& 0xFFFFFFFFFFFFF).toNat
  if biased = 0 then
    { mantissa := fraction, exponent := -1074, narrowBelow := false }
  else
    { mantissa := fraction + Nat.pow 2 52, exponent := (biased : Int) - 1075,
      narrowBelow := fraction = 0 ∧ biased > 1 }

def compareScaled (a : Nat) (i : Int) (b : Nat) (j : Int) : Ordering :=
  let left := a * Nat.pow 10 i.toNat * Nat.pow 2 (-j).toNat
  let right := b * Nat.pow 2 j.toNat * Nat.pow 10 (-i).toNat
  compare left right

structure Interval where
  lower : Nat
  value : Nat
  upper : Nat
  unit : Int
  inclusive : Bool

/-- The rounding interval of `m · 2^q`: from halfway to the neighbour below to halfway to the
neighbour above. -/
def Binary.interval (x : Binary) : Interval :=
  { lower := if x.narrowBelow then 4 * x.mantissa - 1 else 4 * x.mantissa - 2,
    value := 4 * x.mantissa,
    upper := 4 * x.mantissa + 2,
    unit := x.exponent - 2,
    inclusive := x.mantissa % 2 = 0 }

def Interval.contains (iv : Interval) (c : Nat) (s : Int) : Bool :=
  let aboveLower := compareScaled c s iv.lower iv.unit
  let belowUpper := compareScaled c s iv.upper iv.unit
  if iv.inclusive then aboveLower != .lt && belowUpper != .gt
  else aboveLower == .gt && belowUpper == .lt

def Interval.decimalExponent (iv : Interval) : Int :=
  let estimate : Int := ((iv.value.log2 : Int) + iv.unit) * 30103 / 100000 - 2
  let rec up (e : Int) : Nat → Int
    | 0 => e
    | n + 1 => if compareScaled 1 (e + 1) iv.value iv.unit != .gt then up (e + 1) n else e
  up estimate 6

/-- The nearer of two grid neighbours `lo` and `lo + 1` (times `10^s`) to the value; an exact
tie goes to the even one. -/
def Interval.nearer (iv : Interval) (lo : Nat) (s : Int) : Nat :=
  match compareScaled (2 * lo + 1) s (2 * iv.value) iv.unit with
  | .gt => lo
  | .lt => lo + 1
  | .eq => if lo % 2 = 0 then lo else lo + 1

/-- The digits on the grid `10^s` that read back, if any: the value's two neighbours on the
grid are the only candidates worth testing. -/
def Interval.onGrid (iv : Interval) (s : Int) : Option Nat :=
  let num := iv.value * Nat.pow 2 iv.unit.toNat * Nat.pow 10 (-s).toNat
  let den := Nat.pow 2 (-iv.unit).toNat * Nat.pow 10 s.toNat
  let lo := num / den
  match iv.contains lo s, iv.contains (lo + 1) s with
  | true, true => some (iv.nearer lo s)
  | true, false => some lo
  | false, true => some (lo + 1)
  | false, false => none

def trimZeros (d : Nat) (s : Int) : Nat × Int :=
  if h : d ≠ 0 ∧ d % 10 = 0 then
    have : d / 10 < d := Nat.div_lt_self (Nat.pos_of_ne_zero h.1) (by decide)
    trimZeros (d / 10) (s + 1)
  else (d, s)
termination_by d

/-- Fewest significant digits, from one to seventeen, whose value reads back as the double:
`(d, s)` with value `d · 10^s`. Seventeen digits always suffice. -/
def Interval.shortest (iv : Interval) : Nat × Int :=
  let e := iv.decimalExponent
  let rec search : Nat → Nat → Nat × Int
    | 0, _ => (iv.value, iv.unit)
    | fuel + 1, n =>
      match iv.onGrid (e - n + 1) with
      | some d => trimZeros d (e - n + 1)
      | none => search fuel (n + 1)
  search 17 1

/-- Shortest digits of a finite positive double given by its bits: `(d, s)` with `d · 10^s`
the value written. -/
def ofBits (bits : UInt64) : Nat × Int :=
  (Binary.ofBits bits).interval.shortest

end VoiceSession.Decimal.Shortest
