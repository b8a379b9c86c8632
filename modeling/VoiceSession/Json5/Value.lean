import VoiceSession.Json5.Grammar
import VoiceSession.Peg.Run
import VoiceSession.Peg.Report
import VoiceSession.Decimal.Read
/-!
# JSON5 values

`Json5.read` reads a JSON5 document: it parses the text with the JSON5 grammar, reporting a
failure as a picture of the line where parsing stopped, and then reads the value from the parse
tree.
-/

namespace VoiceSession.Json5

open Peg

/-- A JSON5 value. -/
inductive Value where
  | null
  | bool (b : Bool)
  | integer (i : Int)
  | float (f : Float)
  | string (s : String)
  | array (items : List Value)
  | object (members : List (String × Value))
  deriving Inhabited

def hexValue (s : String) : Nat :=
  s.foldl (fun n c =>
    n * 16 + (if c.isDigit then c.toNat - 48 else if 'a' ≤ c && c ≤ 'f' then c.toNat - 87
      else c.toNat - 55)) 0

def isHexChar (c : Char) : Bool := c.isDigit || ('a' ≤ c && c ≤ 'f') || ('A' ≤ c && c ≤ 'F')

/-- Reads text as an unsigned 32-bit hexadecimal number: an optional `+`, then at least one
digit. -/
def parseHex (s : String) : Except String Nat :=
  let ds := match s.toList with
    | '+' :: rest@(_ :: _) => rest
    | cs => cs
  if !ds.isEmpty && ds.all isHexChar && hexValue (String.ofList ds) < Nat.pow 2 32 then
    .ok (hexValue (String.ofList ds))
  else .error "error parsing hex"

/-- The text of one part of a string or key other than a hexadecimal or unicode escape. -/
def partText (input : Array Char) (p : Pair Rule) : String :=
  let s := p.text input
  match p.rule with
  | .charEscapeSequence =>
    match s with
    | "b" => "\x08"
    | "f" => "\x0c"
    | "n" => "\n"
    | "r" => "\r"
    | "t" => "\t"
    | "v" => "\x0b"
    | c => c
  | .nulEscapeSequence => "\x00"
  | _ => s

/-- The character a pair of surrogates gives. The high half is joined to the low half by a
bitwise or, after the low half is offset into the supplementary planes, so a high half whose
bit 6 is set loses it: `\uD840\uDC00` gives `U+10000`. -/
def pairedChar (lead trail : Nat) : Char :=
  Char.ofNat (((lead - 0xD800) <<< 10) ||| (trail - 0xDC00 + 0x10000))

/-- The characters of the parts of a string or key, escapes resolved. A `\u` escape of a
trailing surrogate is an error; one of a leading surrogate takes the next part, whose text read
as hexadecimal must be a trailing surrogate, and the two give one character. -/
def partsText (input : Array Char) : List (Pair Rule) → Except String String
  | [] => .ok ""
  | p :: rest =>
    if p.rule == .unicodeEscapeSequence then
      let n := hexValue (p.text input)
      if 0xDC00 ≤ n && n ≤ 0xDFFF then .error "unexpected unicode trail surrogate"
      else if 0xD800 ≤ n && n ≤ 0xDBFF then
        match rest with
        | [] => .error "missing unicode trail surrogate"
        | q :: more => do
          let m ← parseHex (q.text input)
          if m < 0xDC00 || 0xDFFF < m then .error "expecting unicode trail surrogate"
          else return String.singleton (pairedChar n m) ++ (← partsText input more)
      else return String.singleton (Char.ofNat n) ++ (← partsText input rest)
    else if p.rule == .hexEscapeSequence then
      return String.singleton (Char.ofNat (hexValue (p.text input))) ++ (← partsText input rest)
    else return partText input p ++ (← partsText input rest)

def stringOf (input : Array Char) (p : Pair Rule) : Except String String :=
  partsText input p.inner

def isHexText (s : String) : Bool := s.length > 2 && (s.startsWith "0x" || s.startsWith "0X")

def isIntegerText (s : String) : Bool :=
  !s.contains '.' && (isHexText s || (!s.contains 'e' && !s.contains 'E')) &&
    !(["Infinity", "-Infinity", "NaN", "-NaN"].contains s)

/-- Reads signed decimal digits in the 64-bit range. -/
def readInteger (s : String) : Option Int :=
  let (negative, ds) := match s.toList with
    | '-' :: rest => (true, rest)
    | '+' :: rest => (false, rest)
    | cs => (false, cs)
  if ds.isEmpty || !ds.all Char.isDigit then none
  else
    let n : Int := ds.foldl (fun acc c => acc * 10 + (c.toNat - 48 : Nat)) 0
    let v := if negative then -n else n
    if -Int.pow 2 63 ≤ v && v < Int.pow 2 63 then some v else none

/-- The value of number text. -/
def numberOf (s : String) : Except String Value :=
  if isIntegerText s then
    if isHexText s then (fun n => Value.integer n) <$> parseHex (s.drop 2).toString
    else
      match readInteger s with
      | some i => .ok (.integer i)
      | none => .error "error parsing integer"
  else if s == "Infinity" then .ok (.float Decimal.infinity)
  else if s == "-Infinity" then .ok (.float (-Decimal.infinity))
  else if s == "NaN" || s == "-NaN" then .ok (.float (0.0 / 0.0))
  else
    match Decimal.readFloat? s with
    | some f => if f.isFinite then .ok (.float f) else .error "error parsing number: too large"
    | none => .error "error parsing number"

def putMember (k : String) (v : Value) : List (String × Value) → List (String × Value)
  | [] => [(k, v)]
  | (k', v') :: rest => if k == k' then (k, v) :: rest else (k', v') :: putMember k v rest

mutual

/-- The value a node of the parse tree stands for. -/
def valueOf (input : Array Char) : Pair Rule → Except String Value
  | ⟨.null, _, _, _⟩ => .ok .null
  | p@⟨.boolean, _, _, _⟩ => .ok (.bool (p.text input == "true"))
  | p@⟨.string, _, _, _⟩ | p@⟨.identifier, _, _, _⟩ => return .string (← stringOf input p)
  | p@⟨.number, _, _, _⟩ => numberOf (p.text input)
  | ⟨.array, _, _, items⟩ => return .array (← itemsOf input items)
  | ⟨.object, _, _, parts⟩ => return .object (← membersOf input parts [])
  | _ => .ok .null

def itemsOf (input : Array Char) : List (Pair Rule) → Except String (List Value)
  | [] => .ok []
  | p :: rest => return (← valueOf input p) :: (← itemsOf input rest)

/-- The members of an object, from its key and value nodes in turn. -/
def membersOf (input : Array Char) : List (Pair Rule) → List (String × Value) →
    Except String (List (String × Value))
  | k :: v :: rest, acc => do
    let key ← stringOf input k
    let value ← valueOf input v
    membersOf input rest (putMember key value acc)
  | _, acc => .ok acc

end

/-- Reads a JSON5 document. -/
def read (s : String) : Except String Value :=
  let input := s.toList.toArray
  match grammar.parse .text input with
  | .error f => .error (f.report grammar input)
  | .ok nodes =>
    match nodes with
    | p :: _ => valueOf input p
    | [] => .ok .null

end VoiceSession.Json5
