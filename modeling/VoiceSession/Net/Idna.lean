import VoiceSession.Net.Idna.Mapping
import VoiceSession.Net.Idna.Punycode
import VoiceSession.Text.Normalize
import VoiceSession.Text.Bidi
import VoiceSession.Text.Joining
import VoiceSession.Text.Category
import VoiceSession.Text.Utf8
/-!
# Internationalized domain names

`Idna.toAscii` turns the host of a URL into the ASCII form that goes on the wire, by the
nontransitional processing of Unicode IDNA with the checks for joiners and for right-to-left
labels, and without the checks for hyphens and lengths:
-/

namespace VoiceSession.Net.Idna

open Text Text.Bidi Text.Joining

/-- Maps a text by the table: `none` when a character is disallowed. -/
def mapChars : List Char → Option (List Char)
  | [] => some []
  | c :: rest => do
    let tail ← mapChars rest
    match status c.toNat with
    | .valid => some (c :: tail)
    | .mapped targets => some (targets.map Char.ofNat ++ tail)
    | .ignored => some tail
    | .disallowed => none

/-- The ASCII characters a host may not hold: the controls, the space, the delete character and
`% # / : < > ? @ [ \ ] ^ |`. -/
def denied (c : Char) : Bool :=
  c.toNat ≤ 0x20 || c.toNat == 0x7F || "%#/:<>?@[\\]^|".contains c

def hasAcePrefix (l : List Char) : Bool := l.take 4 == ['x', 'n', '-', '-']

/-- The decoded form of a label: a Punycode label decoded and checked, any other as it is. -/
def decodeLabel (l : List Char) : Option (List Char) :=
  if hasAcePrefix l then
    let rest := l.drop 4
    if rest.any (·.toNat ≥ 0x80) then none
    else do
      let u ← Punycode.decode rest
      if u.all (·.toNat < 0x80) || !Normalize.isNfc u || hasAcePrefix u ||
          u.any (fun c => status c.toNat != Status.valid) then none
      else some u
  else some l

/-! ## Joiners -/

/-- Whether a character of combining class virama stands right before; `before` is the text
before, nearest first. -/
def viramaBefore (before : List Char) : Bool :=
  match before.head? with
  | some p => Canonical.combiningClass p.toNat == 9
  | none => false

/-- Whether, passing over transparent characters, a left- or dual-joining character comes
first in `cs`. -/
def joinsFromLeft (cs : List Char) : Bool :=
  match (cs.dropWhile (typeOf · == .transparent)).head? with
  | some c => typeOf c == .left || typeOf c == .dual
  | none => false

/-- Whether, passing over transparent characters, a right- or dual-joining character comes
first in `cs`. -/
def joinsFromRight (cs : List Char) : Bool :=
  match (cs.dropWhile (typeOf · == .transparent)).head? with
  | some c => typeOf c == .right || typeOf c == .dual
  | none => false

/-- Whether every joiner of a label stands where it may: a zero-width joiner only after a
virama, a zero-width non-joiner after a virama or between characters that join towards it.
`before` is the text before, nearest first. -/
def joinersAllowed (before : List Char) : List Char → Bool
  | [] => true
  | c :: after =>
    let ok :=
      if c.toNat == 0x200C then viramaBefore before || (joinsFromLeft before && joinsFromRight after)
      else if c.toNat == 0x200D then viramaBefore before
      else true
    ok && joinersAllowed (c :: before) after

/-! ## Right-to-left labels -/

def isRightToLeft (c : Char) : Bool :=
  match classOf c with
  | .rightToLeft | .arabicLetter | .arabicNumber => true
  | _ => false

def allowedLeftToRight : BidiClass → Bool
  | .leftToRight | .europeanNumber | .europeanSeparator | .commonSeparator
  | .europeanTerminator | .otherNeutral | .boundaryNeutral | .nonspacingMark => true
  | _ => false

def allowedRightToLeft : BidiClass → Bool
  | .rightToLeft | .arabicLetter | .arabicNumber | .europeanNumber | .europeanSeparator
  | .commonSeparator | .europeanTerminator | .otherNeutral | .boundaryNeutral
  | .nonspacingMark => true
  | _ => false

/-- Whether a label of a name with right-to-left labels keeps the rules: it starts with a
strong character; a left-to-right label holds no right-to-left classes and ends, marks aside,
in `L` or `EN`; a right-to-left label holds no `L`, ends, marks aside, in `R`, `AL`, `EN` or
`AN`, and does not mix the two kinds of digits. The empty label passes. -/
def bidiAllowed (l : List Char) : Bool :=
  let classes := l.map classOf
  let lastStrong := (classes.reverse.dropWhile (· == .nonspacingMark)).head?
  match classes with
  | [] => true
  | .leftToRight :: rest =>
    rest.all allowedLeftToRight &&
      (match lastStrong with
        | some c => c == .leftToRight || c == .europeanNumber
        | none => true)
  | .rightToLeft :: rest | .arabicLetter :: rest =>
    rest.all allowedRightToLeft &&
      (match lastStrong with
        | some c => c == .rightToLeft || c == .arabicLetter || c == .europeanNumber ||
            c == .arabicNumber
        | none => false) &&
      !(rest.contains .europeanNumber && rest.contains .arabicNumber)
  | _ => false

/-! ## The whole name -/

def labelAllowed (l : List Char) : Bool :=
  (match l.head? with
    | some c => !Category.marks.has c
    | none => true) && joinersAllowed [] l

def encodeLabel (l : List Char) : Option (List Char) :=
  if l.all (·.toNat < 0x80) then some l
  else do return ['x', 'n', '-', '-'] ++ (← Punycode.encode l)

/-- The ASCII form of a domain name given as bytes, or `none` when it is not a valid name. -/
def toAscii (bytes : List UInt8) : Option String := do
  let mapped ← mapChars (Utf8.decodeLossyChars bytes)
  let normal := Normalize.nfc mapped
  let labels := normal.splitOn '.'
  let decoded ← labels.mapM decodeLabel
  let bidiName := decoded.any (·.any isRightToLeft)
  if !decoded.all labelAllowed || (bidiName && !decoded.all bidiAllowed) || normal.any denied then
    none
  else
    let encoded ← labels.mapM encodeLabel
    return String.ofList (List.intercalate ['.'] encoded)

end VoiceSession.Net.Idna
