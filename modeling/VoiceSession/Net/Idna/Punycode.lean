/-!
# Punycode

Punycode writes a label with the ASCII letters, digits and hyphen: the ASCII characters first,
then the others as insertions coded as base-36 numbers with adaptive thresholds. The decoder works
in 32-bit words and refuses whatever leaves them; the encoder refuses a label too long for them.
-/

namespace VoiceSession.Net.Idna.Punycode

def wordMax : Nat := 0xFFFFFFFF

def threshold (k bias : Nat) : Nat :=
  if k ≤ bias then 1 else if bias + 26 ≤ k then 26 else k - bias

theorem one_le_threshold (k bias : Nat) : 1 ≤ threshold k bias := by
  unfold threshold
  split
  · omega
  · split <;> omega

theorem threshold_le (k bias : Nat) : threshold k bias ≤ 26 := by
  unfold threshold
  split
  · omega
  · split <;> omega

def digitValue? (c : Char) : Option Nat :=
  if 'a' ≤ c && c ≤ 'z' then some (c.toNat - 0x61)
  else if 'A' ≤ c && c ≤ 'Z' then some (c.toNat - 0x41)
  else if '0' ≤ c && c ≤ '9' then some (c.toNat - 0x30 + 26)
  else none

def digitChar (d : Nat) : Char :=
  if d < 26 then Char.ofNat (0x61 + d) else Char.ofNat (0x30 + d - 26)

def scaleDown (delta k : Nat) : Nat × Nat :=
  if 455 < delta then scaleDown (delta / 35) (k + 36) else (delta, k)
termination_by delta
decreasing_by omega

/-- The bias after a count `delta`, when `points` characters are placed, the first count being
damped more. -/
def adapt (delta points : Nat) (first : Bool) : Nat :=
  let delta := if first then delta / 700 else delta / 2
  let delta := delta + delta / points
  let (delta, k) := scaleDown delta 0
  k + 36 * delta / (delta + 38)

/-! ## Encoding -/

/-- The digits of the count `q`, from place `k` on. -/
def encodeCount (bias k q : Nat) : List Char :=
  let t := threshold k bias
  if q < t then [digitChar q]
  else digitChar (t + (q - t) % (36 - t)) :: encodeCount bias (k + 36) ((q - t) / (36 - t))
termination_by q
decreasing_by
  have h1 := one_le_threshold k bias
  have h2 := threshold_le k bias
  have : (q - threshold k bias) / (36 - threshold k bias) ≤ q - threshold k bias :=
    Nat.div_le_self _ _
  omega

/-- The state of the encoder: the digits written, the count so far, the bias and the number of
characters placed. -/
structure Encoder where
  out : List Char
  delta : Nat
  bias : Nat
  placed : Nat

/-- Passes one character of the label while inserting code point `m`: a smaller one adds to the
count, `m` itself writes the count out. `basic` is the number of ASCII characters. -/
def Encoder.pass (basic m : Nat) (st : Encoder) (c : Nat) : Encoder :=
  if c < m then { st with delta := st.delta + 1 }
  else if c == m then
    { out := st.out ++ encodeCount st.bias 36 st.delta,
      delta := 0,
      bias := adapt st.delta (st.placed + 1) (st.placed == basic),
      placed := st.placed + 1 }
  else st

def Encoder.insertAll (label : List Nat) (basic : Nat) : List Nat → Nat → Encoder → Encoder
  | [], _, st => st
  | m :: todo, n, st =>
    let st := { st with delta := st.delta + (m - n) * (st.placed + 1) }
    let st := label.foldl (Encoder.pass basic m) st
    Encoder.insertAll label basic todo (m + 1) { st with delta := st.delta + 1 }

def insertSorted (x : Nat) : List Nat → List Nat
  | [] => [x]
  | y :: ys => if x < y then x :: y :: ys else if x == y then y :: ys else y :: insertSorted x ys

/-- Encodes a label; `none` when it is too long for the counts to stay in a word. -/
def encode (label : List Char) : Option (List Char) :=
  let codes := label.map Char.toNat
  if (codes.length + 1) * (0x10FFFF - 0x80) > wordMax then none
  else
    let basic := label.filter (·.toNat < 0x80)
    let others := (codes.filter (0x80 ≤ ·)).foldr insertSorted []
    let st := Encoder.insertAll codes basic.length others 0x80
      { out := [], delta := 0, bias := 72, placed := basic.length }
    some (basic ++ (if basic.isEmpty then [] else ['-']) ++ st.out)

/-! ## Decoding -/

/-- Reads one count from place `k` with weight `w`, adding it to `i`: the new `i` and the rest
of the input. -/
def decodeCount (bias : Nat) : List Char → Nat → Nat → Nat → Option (Nat × List Char)
  | [], _, _, _ => none
  | c :: rest, k, w, i => do
    let d ← digitValue? c
    if d * w > wordMax || i + d * w > wordMax then none
    else
      let i := i + d * w
      let t := threshold k bias
      if d < t then some (i, rest)
      else if w * (36 - t) > wordMax then none
      else decodeCount bias rest (k + 36) (w * (36 - t)) i

def isScalar (n : Nat) : Bool := n < 0xD800 || (0xDFFF < n && n < 0x110000)

/-- Reads the insertions into `out`: `n` is the code point reached, `i` the position, `bias` the
bias. `fuel` counts the rounds left; each round reads a character at least. -/
def decodeInsertions : Nat → Nat → Nat → Nat → List Char → List Char → Option (List Char)
  | _, _, _, _, out, [] => some out
  | 0, _, _, _, _, _ :: _ => none
  | fuel + 1, n, i, bias, out, input@(_ :: _) => do
    let (i', rest) ← decodeCount bias input 36 1 i
    let points := out.length + 1
    let bias := adapt (i' - i) points (i == 0)
    let n := n + i' / points
    if n > wordMax || !isScalar n then none
    else
      let pos := i' % points
      decodeInsertions fuel n (pos + 1) bias (out.insertIdx pos (Char.ofNat n)) rest

def decode (input : List Char) : Option (List Char) :=
  let (basic, rest) := match input.reverse.idxOf? '-' with
    | some j => (input.take (input.length - 1 - j), input.drop (input.length - j))
    | none => ([], input)
  if basic.any (·.toNat ≥ 0x80) then none
  else decodeInsertions rest.length 0x80 0 72 basic rest

end VoiceSession.Net.Idna.Punycode
