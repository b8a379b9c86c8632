/-!
# The double nearest to a natural number

`nearestDouble n` is `n` rounded to 53 significant bits, a tie going to the even significand,
and infinity past the largest finite double. The table of powers of ten that the number reader
multiplies by is built from it, so each entry is the correctly rounded `10^k`.
-/

namespace VoiceSession.Decimal

def exactLimit : Nat := Nat.pow 2 53

/-- `n` rounded to the nearest double; of two nearest, the one with the even significand. -/
def nearestDouble (n : Nat) : Float :=
  if n < exactLimit then n.toUInt64.toFloat
  else
    let shift := n.log2 - 52
    let q := n / Nat.pow 2 shift
    let r := n % Nat.pow 2 shift
    let half := Nat.pow 2 (shift - 1)
    let q := if half < r ∨ (r = half ∧ q % 2 = 1) then q + 1 else q
    q.toUInt64.toFloat.scaleB shift

def powersOfTen : Array Float :=
  (Array.range 309).map fun k => nearestDouble (Nat.pow 10 k)

def powerOfTen (k : Nat) : Float :=
  powersOfTen.getD k 0

end VoiceSession.Decimal
