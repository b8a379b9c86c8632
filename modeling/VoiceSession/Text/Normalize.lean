import VoiceSession.Text.Canonical
/-!
# Canonical composition

`Normalize.nfc` brings a text to Normalization Form C in the three steps of the Unicode
standard:
-/

namespace VoiceSession.Text.Normalize

open Canonical

def syllableBase : Nat := 0xAC00

def leadBase : Nat := 0x1100

def vowelBase : Nat := 0x1161

def trailBase : Nat := 0x11A7

def vowelCount : Nat := 21

def trailCount : Nat := 28

def syllableCount : Nat := 19 * 21 * 28

def isSyllable (n : Nat) : Bool := syllableBase ≤ n && n < syllableBase + syllableCount

/-- The full canonical decomposition of a code point; `fuel` bounds the depth of the
decomposition, which is at most four in the data. -/
def decomposeCode : Nat → Nat → List Nat
  | 0, n => [n]
  | fuel + 1, n =>
    if isSyllable n then
      let s := n - syllableBase
      let lead := leadBase + s / (vowelCount * trailCount)
      let vowel := vowelBase + s % (vowelCount * trailCount) / trailCount
      let trail := s % trailCount
      if trail == 0 then [lead, vowel] else [lead, vowel, trailBase + trail]
    else
      match decomposition? n with
      | some parts => parts.flatMap (decomposeCode fuel)
      | none => [n]

def sortRun (run : List Nat) : List Nat :=
  run.mergeSort fun a b => combiningClass a ≤ combiningClass b

def reorder (run : List Nat) : List Nat → List Nat
  | [] => sortRun run
  | c :: rest =>
    if combiningClass c == 0 then sortRun run ++ c :: reorder [] rest
    else reorder (run ++ [c]) rest

/-- The composite of two code points, by Hangul arithmetic or the composition table. -/
def composePair (a b : Nat) : Option Nat :=
  if leadBase ≤ a && a < leadBase + 19 && vowelBase ≤ b && b < vowelBase + vowelCount then
    some (syllableBase + ((a - leadBase) * vowelCount + (b - vowelBase)) * trailCount)
  else if isSyllable a && (a - syllableBase) % trailCount == 0 && trailBase < b &&
      b < trailBase + trailCount then
    some (a + (b - trailBase))
  else composite? a b

/-- The state of composition: the output so far, the place of the last starter in it, and the
combining class of the last character kept after that starter (zero when it is the starter
itself; 256 when the text starts with a non-starter, which nothing joins). -/
structure Composing where
  out : Array Nat
  starter : Nat
  last : Nat

/-- Takes one more character: it joins the starter when it may, or is kept. -/
def Composing.push (st : Composing) (c : Nat) : Composing :=
  let cc := combiningClass c
  let keep : Composing :=
    if cc == 0 then { out := st.out.push c, starter := st.out.size, last := 0 }
    else { st with out := st.out.push c, last := cc }
  match st.out[st.starter]? with
  | some s =>
    match composePair s c with
    | some k =>
      if st.last < cc || st.last == 0 then { st with out := st.out.setIfInBounds st.starter k }
      else keep
    | none => keep
  | none => keep

def compose : List Nat → List Nat
  | [] => []
  | c :: rest =>
    let start : Composing :=
      { out := #[c], starter := 0, last := if combiningClass c == 0 then 0 else 256 }
    (rest.foldl Composing.push start).out.toList

def nfc (cs : List Char) : List Char :=
  (compose (reorder [] ((cs.map Char.toNat).flatMap (decomposeCode 8)))).map Char.ofNat

def isNfc (cs : List Char) : Bool := nfc cs == cs

end VoiceSession.Text.Normalize
