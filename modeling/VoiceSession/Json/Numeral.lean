import VoiceSession.Json.Cursor
import VoiceSession.Json.Number
import VoiceSession.Decimal.Scale
/-!
# JSON number literals

`Cursor.number` keeps an integer that fits 64 bits as an integer and makes every other number a
double, through a 64-bit significand and a 32-bit exponent (`Decimal.scale`), so a literal can be
out of range. `Cursor.skipNumber` checks only a literal's form.
-/

namespace VoiceSession.Json

def isDigit (b : UInt8) : Bool := 48 ≤ b && b ≤ 57

def wordMax : Nat := Nat.pow 2 64 - 1

def exponentMax : Int := Int.pow 2 31 - 1

def overflows (acc d limit : Nat) : Bool :=
  acc ≥ limit / 10 && (acc > limit / 10 || d > limit % 10)

def saturate (n : Int) : Int := max (-exponentMax - 1) (min exponentMax n)

namespace Cursor

private def refuse {α : Type} (f : Fault) (p : Position) : Except Error α :=
  .error { fault := f, position := some p }

def digitCount (c : Cursor) : Nat := (c.rest.takeWhile isDigit).length

def finishDouble (positive : Bool) (significand : Nat) (exponent : Int) (c : Cursor) :
    Except Error (Float × Cursor) :=
  match Decimal.scale positive significand exponent with
  | some x => .ok (x, c)
  | none => refuse .numberOutOfRange c.position

/-- Gathers exponent digits into `acc`; `none` when they pass the 32-bit range, with the cursor
past the offending digit. -/
def exponentDigits : Nat → List UInt8 → Nat → Option Nat × Nat
  | acc, [], n => (some acc, n)
  | acc, b :: rest, n =>
    if isDigit b then
      let d := b.toNat - 48
      if overflows acc d exponentMax.toNat then (none, n + 1)
      else exponentDigits (acc * 10 + d) rest (n + 1)
    else (some acc, n)

/-- Reads an exponent; the cursor is at the `e`. -/
def exponentPart (positive : Bool) (significand : Nat) (start : Int) (c : Cursor) :
    Except Error (Float × Cursor) :=
  let c := c.advance
  let (positiveExp, c) := match c.rest with
    | 43 :: _ => (true, c.advance)
    | 45 :: _ => (false, c.advance)
    | _ => (true, c)
  match c.rest with
  | [] => refuse .eofWhileParsingValue c.position
  | b :: _ =>
    if !isDigit b then refuse .invalidNumber (c.advance).position
    else
      match exponentDigits 0 c.rest 0 with
      | (some e, n) =>
        let c := c.forward n
        let total := if positiveExp then saturate (start + e) else saturate (start - e)
        finishDouble positive significand total c
      | (none, n) =>
        let c := c.forward n
        if significand != 0 && positiveExp then refuse .numberOutOfRange c.position
        else
          let c := c.forward c.digitCount
          .ok (if positive then 0.0 else -0.0, c)

/-- Gathers fraction digits: the significand, the count taken, and whether it filled up
(the cursor then stands at the first digit not taken). -/
def fractionDigits : Nat → List UInt8 → Nat → Nat × Nat × Bool
  | acc, [], n => (acc, n, false)
  | acc, b :: rest, n =>
    if isDigit b then
      let d := b.toNat - 48
      if overflows acc d wordMax then (acc, n, true)
      else fractionDigits (acc * 10 + d) rest (n + 1)
    else (acc, n, false)

/-- Reads a fraction and what follows it; the cursor is at the point. -/
def fractionPart (positive : Bool) (significand : Nat) (before : Int) (c : Cursor) :
    Except Error (Float × Cursor) :=
  let c := c.advance
  let (sig, n, full) := fractionDigits significand c.rest 0
  let c := c.forward n
  let exponent := before - n
  if full then
    let c := c.forward c.digitCount
    match c.rest with
    | 101 :: _ | 69 :: _ => exponentPart positive sig exponent c
    | _ => finishDouble positive sig exponent c
  else if n = 0 then
    match c.rest with
    | [] => refuse .eofWhileParsingValue c.peekPosition
    | _ => refuse .invalidNumber c.peekPosition
  else
    match c.rest with
    | 101 :: _ | 69 :: _ => exponentPart positive sig exponent c
    | _ => finishDouble positive sig exponent c

/-- After the significand's digits: a fraction, an exponent, or an integer. -/
def numberTail (positive : Bool) (significand : Nat) (c : Cursor) :
    Except Error (Number × Cursor) :=
  let asDouble (r : Except Error (Float × Cursor)) := r.map fun (x, c) => (Number.ofFloat x, c)
  match c.rest with
  | 46 :: _ => asDouble (fractionPart positive significand 0 c)
  | 101 :: _ | 69 :: _ => asDouble (exponentPart positive significand 0 c)
  | _ =>
    if positive then .ok (.unsigned significand.toUInt64, c)
    else if significand = 0 || significand > Nat.pow 2 63 then
      .ok (Number.ofFloat (-(Decimal.nearestDouble significand)), c)
    else .ok (.negative (Int64.ofInt (-(significand : Int))), c)

/-- Gathers integer digits: the significand, the count taken, and whether it filled up. -/
def integerDigits : Nat → List UInt8 → Nat → Nat × Nat × Bool
  | acc, [], n => (acc, n, false)
  | acc, b :: rest, n =>
    if isDigit b then
      let d := b.toNat - 48
      if overflows acc d wordMax then (acc, n, true)
      else integerDigits (acc * 10 + d) rest (n + 1)
    else (acc, n, false)

/-- Reads a number literal after its sign. -/
def number (positive : Bool) (c : Cursor) : Except Error (Number × Cursor) :=
  match c.rest with
  | [] => refuse .eofWhileParsingValue c.position
  | b :: _ =>
    let c1 := c.advance
    if b == 48 then
      match c1.rest with
      | d :: _ => if isDigit d then refuse .invalidNumber c1.peekPosition else numberTail positive 0 c1
      | [] => numberTail positive 0 c1
    else if isDigit b then
      let (sig, n, full) := integerDigits (b.toNat - 48) c1.rest 0
      let c2 := c1.forward n
      if full then
        -- the remaining integer digits only scale the significand
        let extra := c2.digitCount
        let c3 := c2.forward extra
        let r := match c3.rest with
          | 46 :: _ => fractionPart positive sig extra c3
          | 101 :: _ | 69 :: _ => exponentPart positive sig extra c3
          | _ => finishDouble positive sig extra c3
        r.map fun (x, c) => (Number.ofFloat x, c)
      else numberTail positive sig c2
    else refuse .invalidNumber c1.position

/-- Passes over an exponent; the cursor is at the `e`. -/
def skipExponent (c : Cursor) : Except Error Cursor :=
  let c := c.advance
  let c := match c.rest with
    | 43 :: _ | 45 :: _ => c.advance
    | _ => c
  match c.rest with
  | b :: _ => if isDigit b then .ok (c.advance.forward c.advance.digitCount)
    else refuse .invalidNumber c.advance.position
  | [] => refuse .invalidNumber c.position

/-- Passes over a number literal after its sign, checking only its form. -/
def skipNumber (c : Cursor) : Except Error (Unit × Cursor) :=
  let afterDigits (c : Cursor) : Except Error Cursor :=
    match c.rest with
    | 46 :: _ =>
      let c := c.advance
      let n := c.digitCount
      if n = 0 then refuse .invalidNumber c.peekPosition
      else
        let c := c.forward n
        match c.rest with
        | 101 :: _ | 69 :: _ => skipExponent c
        | _ => .ok c
    | 101 :: _ | 69 :: _ => skipExponent c
    | _ => .ok c
  let r := match c.rest with
    | 48 :: _ =>
      let c1 := c.advance
      match c1.rest with
      | d :: _ => if isDigit d then refuse .invalidNumber c1.peekPosition else afterDigits c1
      | [] => afterDigits c1
    | b :: _ =>
      if isDigit b then afterDigits (c.advance.forward c.advance.digitCount)
      else refuse .invalidNumber c.advance.position
    | [] => refuse .invalidNumber c.position
  r.map fun c => ((), c)

end Cursor

end VoiceSession.Json
