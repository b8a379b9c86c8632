import VoiceSession.Decimal.Nearest
/-!
# Reading decimal text

Decimal numerals are read exactly: a numeral stands for a rational number `d × 10^e`, and the
double it reads as is that number rounded to 53 significant bits, ties to the even significand,
with gradual underflow below `2^-1022` and infinity past the largest finite double.
-/

namespace VoiceSession.Decimal

def infinity : Float := 1.0 / 0.0

/-- `m × 2^e`, plus less than one unit of `m` when `sticky`, rounded to a double. -/
def roundScaled (m : Nat) (e : Int) (sticky : Bool) : Float :=
  if m = 0 then 0 else
  let top : Int := m.log2 + e
  if top > 1023 then infinity else
  let drop : Int := max ((m.log2 : Int) + 1 - 53) (-1074 - e)
  if drop ≤ 0 then (m.toUInt64.toFloat).scaleB e
  else
    let d := drop.toNat
    let q := m / Nat.pow 2 d
    let r := m % Nat.pow 2 d
    let half := Nat.pow 2 (d - 1)
    let up := half < r ∨ (r = half ∧ (sticky ∨ q % 2 = 1))
    let q := if up then q + 1 else q
    (q.toUInt64.toFloat).scaleB (e + drop)

def nearestRatio (num den : Nat) : Float :=
  if num = 0 ∨ den = 0 then 0 else
  let shift : Int := 66 - ((num.log2 : Int) - den.log2)
  let (n, d) := if 0 ≤ shift then (num * Nat.pow 2 shift.toNat, den) else (num, den * Nat.pow 2 (-shift).toNat)
  roundScaled (n / d) (-shift) (n % d != 0)

/-- `d × 10^e` rounded to the nearest double; far out of range it is `0` or infinity. -/
def scaledDecimal (d : Nat) (e : Int) : Float :=
  if d = 0 then 0
  else
    let digits : Int := (toString d).length
    if digits + e > 310 then infinity
    else if digits + e < -330 then 0
    else if 0 ≤ e then nearestDouble (d * Nat.pow 10 e.toNat)
    else nearestRatio d (Nat.pow 10 (-e).toNat)

def digitsOf (cs : List Char) : Nat := cs.foldl (fun n c => n * 10 + (c.toNat - 48)) 0

def splitSign : List Char → Bool × List Char
  | '-' :: rest => (true, rest)
  | '+' :: rest => (false, rest)
  | cs => (false, cs)

/-- Reads floating-point text, or nothing when the text is not a number. -/
def readFloat? (text : String) : Option Float :=
  let (negative, cs) := splitSign text.toList
  let signed (x : Float) : Float := if negative then -x else x
  let word := String.ofList (cs.map Char.toLower)
  if word == "inf" || word == "infinity" then some (signed infinity)
  else if word == "nan" then some (0.0 / 0.0)
  else
    let whole := cs.takeWhile Char.isDigit
    let afterWhole := cs.drop whole.length
    let (fraction, afterFraction) := match afterWhole with
      | '.' :: rest => (rest.takeWhile Char.isDigit, rest.dropWhile Char.isDigit)
      | rest => ([], rest)
    if whole.isEmpty && fraction.isEmpty then none
    else
      let exponent : Option Int := match afterFraction with
        | [] => some 0
        | c :: rest =>
          if c == 'e' || c == 'E' then
            let (expNegative, ds) := splitSign rest
            if !ds.isEmpty && ds.all Char.isDigit then
              some (if expNegative then -(digitsOf ds : Int) else digitsOf ds)
            else none
          else none
      exponent.map fun ex =>
        signed (scaledDecimal (digitsOf (whole ++ fraction)) (ex - fraction.length))

def inInt64 (i : Int) : Bool := -Int.pow 2 63 ≤ i && i < Int.pow 2 63

/-- Reads a signed decimal integer in the 64-bit range. -/
def readInt? (text : String) : Option Int :=
  let (negative, cs) := splitSign text.toList
  if cs.isEmpty || !cs.all Char.isDigit then none
  else
    let n : Int := digitsOf cs
    let i := if negative then -n else n
    if inInt64 i then some i else none

end VoiceSession.Decimal
