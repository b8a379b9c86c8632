/-!
# UTF-8 byte sequences

Decoding of octet lists under the well-formedness table of the Unicode standard (no overlong
forms, no surrogates, nothing above U+10FFFF), in two flavours:
-/

namespace VoiceSession.Text.Utf8

def isContinuation (b : UInt8) : Bool := 0x80 ≤ b && b ≤ 0xBF

/-- The range allowed for the byte after a lead byte: it is narrower than `80..BF` exactly
where the full range would give an overlong form, a surrogate or a value past U+10FFFF. -/
def secondRange (lead : UInt8) : UInt8 × UInt8 :=
  if lead = 0xE0 then (0xA0, 0xBF)
  else if lead = 0xED then (0x80, 0x9F)
  else if lead = 0xF0 then (0x90, 0xBF)
  else if lead = 0xF4 then (0x80, 0x8F)
  else (0x80, 0xBF)

def sequenceLength (lead : UInt8) : Nat :=
  if lead < 0x80 then 1
  else if 0xC2 ≤ lead && lead ≤ 0xDF then 2
  else if 0xE0 ≤ lead && lead ≤ 0xEF then 3
  else if 0xF0 ≤ lead && lead ≤ 0xF4 then 4
  else 0

inductive Step where
  | char (c : Char) (width : Nat)
  | invalid (width : Nat)
  deriving Repr

def payload (b : UInt8) (bits : Nat) : Nat := b.toNat % Nat.pow 2 bits

/-- Reads the sequence at the head of a non-empty list. -/
def next (lead : UInt8) (rest : List UInt8) : Step :=
  let (lo, hi) := secondRange lead
  let inSecond (b : UInt8) : Bool := lo ≤ b && b ≤ hi
  match sequenceLength lead, rest with
  | 1, _ => .char (Char.ofNat lead.toNat) 1
  | 2, b1 :: _ =>
    if isContinuation b1 then
      .char (Char.ofNat (payload lead 5 * 64 + payload b1 6)) 2
    else .invalid 1
  | 3, b1 :: b2 :: _ =>
    if !inSecond b1 then .invalid 1
    else if !isContinuation b2 then .invalid 2
    else .char (Char.ofNat (payload lead 4 * 4096 + payload b1 6 * 64 + payload b2 6)) 3
  | 3, [b1] => if inSecond b1 then .invalid 2 else .invalid 1
  | 4, b1 :: b2 :: b3 :: _ =>
    if !inSecond b1 then .invalid 1
    else if !isContinuation b2 then .invalid 2
    else if !isContinuation b3 then .invalid 3
    else .char (Char.ofNat (payload lead 3 * 262144 + payload b1 6 * 4096
      + payload b2 6 * 64 + payload b3 6)) 4
  | 4, [b1, b2] =>
    if !inSecond b1 then .invalid 1
    else if !isContinuation b2 then .invalid 2
    else .invalid 3
  | 4, [b1] => if inSecond b1 then .invalid 2 else .invalid 1
  | _, _ => .invalid 1

def Step.width : Step → Nat
  | .char _ w => max w 1
  | .invalid w => max w 1

theorem Step.width_pos (s : Step) : 0 < s.width := by
  cases s <;> simp only [Step.width] <;> omega

/-- Decodes well-formed UTF-8; on failure gives the offset of the first ill-formed byte. -/
def decodeFrom (offset : Nat) : List UInt8 → Except Nat (List Char)
  | [] => .ok []
  | lead :: rest =>
    match h : next lead rest with
    | .char c _ =>
      have : (lead :: rest).length - (next lead rest).width < (lead :: rest).length := by
        have := (next lead rest).width_pos; simp; omega
      (decodeFrom (offset + (next lead rest).width) ((lead :: rest).drop (next lead rest).width)).map
        (c :: ·)
    | .invalid _ => .error offset
termination_by bytes => bytes.length
decreasing_by simp_all

def decode? (bytes : List UInt8) : Except Nat String :=
  (decodeFrom 0 bytes).map String.ofList

/-- Decodes UTF-8, writing U+FFFD for each maximal ill-formed subpart. -/
def decodeLossyChars : List UInt8 → List Char
  | [] => []
  | lead :: rest =>
    let c := match next lead rest with
      | .char c _ => c
      | .invalid _ => '�'
    c :: decodeLossyChars ((lead :: rest).drop (next lead rest).width)
termination_by bytes => bytes.length
decreasing_by have := (next lead rest).width_pos; simp; omega

def decodeLossy (bytes : List UInt8) : String :=
  String.ofList (decodeLossyChars bytes)

/-- The UTF-8 encoding of a character. -/
def encodeChar (c : Char) : List UInt8 :=
  let n := c.toNat
  if n < 0x80 then [n.toUInt8]
  else if n < 0x800 then [(0xC0 + n / 64).toUInt8, (0x80 + n % 64).toUInt8]
  else if n < 0x10000 then
    [(0xE0 + n / 4096).toUInt8, (0x80 + n / 64 % 64).toUInt8, (0x80 + n % 64).toUInt8]
  else
    [(0xF0 + n / 262144).toUInt8, (0x80 + n / 4096 % 64).toUInt8,
      (0x80 + n / 64 % 64).toUInt8, (0x80 + n % 64).toUInt8]

def encode (s : String) : List UInt8 :=
  s.toList.flatMap encodeChar

end VoiceSession.Text.Utf8
