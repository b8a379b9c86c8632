import VoiceSession.Decimal.Read
import VoiceSession.Text.Escape
/-!
# RON documents

`Ron.read` reads a RON document (structs, tuples, lists, maps, options, numbers, strings and
characters, with comments and `#![enable(...)]` attributes) into a `Value`, reporting errors at a
line and a byte column. Maps keep the last entry given for each key.
-/

namespace VoiceSession.Ron

/-- A RON value. -/
inductive Value where
  | bool (b : Bool)
  | char (c : Char)
  | map (entries : List (Value × Value))
  | integer (i : Int)
  | float (f : Float)
  | option (v : Option Value)
  | string (s : String)
  | seq (items : List Value)
  | unit
  deriving Inhabited

/-- Why a document could not be read. -/
inductive ErrorCode where
  | eof
  | expectedArray
  | expectedArrayEnd
  | expectedAttribute
  | expectedAttributeEnd
  | expectedComma
  | expectedChar
  | expectedFloat
  | expectedOption
  | expectedOptionEnd
  | expectedMap
  | expectedMapColon
  | expectedMapEnd
  | expectedStructLike
  | expectedStructLikeEnd
  | expectedString
  | expectedStringEnd
  | expectedIdentifier
  | invalidEscape (what : String)
  | floatUnderscore
  | noSuchExtension (name : String)
  | unclosedBlockComment
  | unexpectedByte (c : Char)
  | trailingCharacters
  deriving DecidableEq, Repr

def quoted (t : String) : String :=
  let q := String.singleton (Char.ofNat 0x27)
  q ++ t ++ q

/-- The text of an error code. -/
def ErrorCode.text : ErrorCode → String
  | .eof => "Unexpected end of RON"
  | .expectedArray => "Expected opening `[`"
  | .expectedArrayEnd => "Expected closing `]`"
  | .expectedAttribute => "Expected an `#![enable(...)]` attribute"
  | .expectedAttributeEnd => "Expected closing `)]` after the enable attribute"
  | .expectedComma => "Expected comma"
  | .expectedChar => "Expected char"
  | .expectedFloat => "Expected float"
  | .expectedOption => "Expected option"
  | .expectedOptionEnd => "Expected closing `)`"
  | .expectedMap => "Expected opening `\x7b`"
  | .expectedMapColon => "Expected colon"
  | .expectedMapEnd => "Expected closing `\x7d`"
  | .expectedStructLike => "Expected opening `(`"
  | .expectedStructLikeEnd => "Expected closing `)`"
  | .expectedString => "Expected string"
  | .expectedStringEnd => "Expected end of string"
  | .expectedIdentifier => "Expected identifier"
  | .invalidEscape what => "Invalid escape sequence " ++ quoted what
  | .floatUnderscore => "Unexpected underscore in float"
  | .noSuchExtension name => "No RON extension named `" ++ name ++ "`"
  | .unclosedBlockComment => "Unclosed block comment"
  | .unexpectedByte c => "Unexpected byte " ++ Text.Escape.charLiteral c
  | .trailingCharacters => "Non-whitespace trailing characters"

structure Error where
  code : ErrorCode
  line : Nat
  column : Nat
  deriving Repr

def Error.text (e : Error) : String :=
  toString e.line ++ ":" ++ toString e.column ++ ": " ++ e.code.text

structure Reader where
  rest : List UInt8
  line : Nat := 1
  column : Nat := 1
  implicitSome : Bool := false

abbrev ReadM := StateT Reader (Except Error)

namespace Reader

def step (r : Reader) : Reader :=
  match r.rest with
  | b :: rest =>
    if b == 10 then { r with rest := rest, line := r.line + 1, column := 1 }
    else { r with rest := rest, column := r.column + 1 }
  | [] => r

def skip : Nat → Reader → Reader
  | 0, r => r
  | n + 1, r => skip n r.step

end Reader

def byte (c : Char) : UInt8 := c.toNat.toUInt8

def byteChar (b : UInt8) : Char := Char.ofNat b.toNat

def fail {α : Type} (code : ErrorCode) : ReadM α := do
  let r ← get
  throw { code := code, line := r.line, column := r.column }

def peekOrEof : ReadM UInt8 := do
  match (← get).rest with
  | b :: _ => return b
  | [] => fail .eof

def advance (n : Nat) : ReadM Unit := modify (Reader.skip n)

def eatByte : ReadM UInt8 := do
  let b ← peekOrEof
  advance 1
  return b

def consume (s : String) : ReadM Bool := do
  let bs := s.toUTF8.toList
  if bs.isPrefixOf (← get).rest then
    advance bs.length
    return true
  else return false

def isIdentFirst (b : UInt8) : Bool :=
  (byte 'a' ≤ b && b ≤ byte 'z') || (byte 'A' ≤ b && b ≤ byte 'Z') || b == byte '_'

def isIdentOther (b : UInt8) : Bool := isIdentFirst b || (byte '0' ≤ b && b ≤ byte '9')

def isIdentRaw (b : UInt8) : Bool := isIdentOther b || b == byte '.' || b == byte '+' || b == byte '-'

def checkIdent (s : String) : ReadM Bool := do
  let bs := s.toUTF8.toList
  let rest := (← get).rest
  return bs.isPrefixOf rest && !((rest.drop bs.length).head?.any isIdentOther)

def consumeIdent (s : String) : ReadM Bool := do
  if ← checkIdent s then
    advance s.utf8ByteSize
    return true
  else return false

def takeWhile (p : UInt8 → Bool) : ReadM (List UInt8) := do
  let bs := (← get).rest.takeWhile p
  advance bs.length
  return bs

def text (bs : List UInt8) : String := (String.fromUTF8? (ByteArray.mk bs.toArray)).getD ""

/-- Skips the rest of a nested block comment, `level` levels deep. -/
def blockComment : Nat → Nat → ReadM Unit
  | 0, _ => pure ()
  | _, 0 => pure ()
  | fuel + 1, level + 1 => do
    if (← get).rest.isEmpty then fail .unclosedBlockComment
    let _ ← takeWhile fun b => b != byte '/' && b != byte '*'
    if ← consume "/*" then blockComment fuel (level + 2)
    else if ← consume "*/" then blockComment fuel level
    else if (← get).rest.isEmpty then fail .unclosedBlockComment
    else do
      advance 1
      blockComment fuel (level + 1)

/-- Skips a comment if one starts here. -/
def skipComment : ReadM Bool := do
  if ← consume "/" then
    let b ← eatByte
    if b == byte '/' then
      let _ ← takeWhile (· != 10)
    else if b == byte '*' then
      blockComment ((← get).rest.length + 1) 1
    else fail (.unexpectedByte (byteChar b))
    return true
  else return false

def isBlank (b : UInt8) : Bool := b == 10 || b == 9 || b == 13 || b == 32

def skipWs : Nat → ReadM Unit
  | 0 => pure ()
  | fuel + 1 => do
    let _ ← takeWhile isBlank
    if ← skipComment then skipWs fuel

def blanks : ReadM Unit := do skipWs ((← get).rest.length + 1)

def comma : ReadM Bool := do
  blanks
  if ← consume "," then
    blanks
    return true
  else return false

/-- Reads an identifier: a raw `r#...` one or a letter or `_` followed by letters, digits and
`_`. -/
def identifier : ReadM (List UInt8) := do
  let next ← peekOrEof
  if !isIdentFirst next then fail .expectedIdentifier
  if next == byte 'r' then
    match (← get).rest with
    | _ :: b1 :: more =>
      if b1 == byte '"' then fail .expectedIdentifier
      else if b1 == byte '#' then
        if !isIdentRaw (more.head?.getD 0) then fail .expectedIdentifier
        advance 2
        takeWhile isIdentRaw
      else takeWhile isIdentOther
    | _ => fail .eof
  else takeWhile isIdentOther

def identifier? : ReadM (Option (List UInt8)) := fun r =>
  match identifier.run r with
  | .ok (name, r') => .ok (some name, r')
  | .error _ => .ok (none, r)

def hexDigit (b : UInt8) : ReadM Nat :=
  if byte '0' ≤ b && b ≤ byte '9' then pure (b - byte '0').toNat
  else if byte 'a' ≤ b && b ≤ byte 'f' then pure (b - byte 'a' + 10).toNat
  else if byte 'A' ≤ b && b ≤ byte 'F' then pure (b - byte 'A' + 10).toNat
  else fail (.invalidEscape "Non-hex digit found")

/-- The hexadecimal digits of a `\u{...}` escape, at most six, up to the closing brace. -/
def unicodeDigits : Nat → Nat → Nat → ReadM (Nat × Nat)
  | 0, value, count => pure (value, count)
  | k + 1, value, count => do
    let b ← peekOrEof
    if b == byte '\x7d' then return (value, count)
    advance 1
    let d ← hexDigit b
    unicodeDigits k (value * 16 + d) (count + 1)

/-- Reads the character after a backslash. -/
def escape : ReadM Char := do
  let b ← eatByte
  if b == byte (Char.ofNat 0x27) then return Char.ofNat 0x27
  else if b == byte '"' then return '"'
  else if b == byte '\\' then return '\\'
  else if b == byte 'n' then return '\n'
  else if b == byte 'r' then return '\r'
  else if b == byte 't' then return '\t'
  else if b == byte '0' then return Char.ofNat 0
  else if b == byte 'x' then
    let hi ← hexDigit (← eatByte)
    let lo ← hexDigit (← eatByte)
    return Char.ofNat (hi * 16 + lo)
  else if b == byte 'u' then
    if (← eatByte) != byte '\x7b' then fail (.invalidEscape "Missing \x7b")
    let (value, count) ← unicodeDigits 6 0 0
    if count == 0 then fail (.invalidEscape "Expected 1-6 digits, got 0 digits")
    if (← eatByte) != byte '\x7d' then fail (.invalidEscape "No \x7d at the end")
    if value < 0xD800 || (0xDFFF < value && value < 0x110000) then return Char.ofNat value
    else fail (.invalidEscape "Not a valid char")
  else fail (.invalidEscape "Unknown escape character")

/-- The bytes of a quoted string after its opening quote, escapes resolved, up to and past the
closing quote. -/
def escapedRest : Nat → List UInt8 → ReadM (List UInt8)
  | 0, acc => pure acc
  | fuel + 1, acc => do
    let rest := (← get).rest
    let plain := rest.takeWhile fun b => b != byte '\\' && b != byte '"'
    match rest.drop plain.length with
    | [] => fail .eof
    | b :: _ =>
      advance (plain.length + 1)
      if b == byte '"' then return acc ++ plain
      else
        let c ← escape
        escapedRest fuel (acc ++ plain ++ (String.singleton c).toUTF8.toList)

/-- Reads a quoted string after its opening quote. -/
def escapedString : ReadM String := do
  let rest := (← get).rest
  let plain := rest.takeWhile fun b => b != byte '\\' && b != byte '"'
  match rest.drop plain.length with
  | [] => fail .expectedStringEnd
  | b :: _ =>
    if b == byte '"' then
      advance (plain.length + 1)
      return text plain
    else return text (← escapedRest (rest.length + 1) [])

def findBytes (ending : List UInt8) : List UInt8 → Nat → Option Nat
  | [], _ => none
  | b :: rest, i => if ending.isPrefixOf (b :: rest) then some i else findBytes ending rest (i + 1)

/-- Reads a raw string after its `r`: hashes, a quote, and text up to a quote and as many
hashes. -/
def rawString : ReadM String := do
  let hashes ← takeWhile (· == byte '#')
  if !(← consume "\"") then fail .expectedString
  let ending := byte '"' :: hashes
  let rest := (← get).rest
  match findBytes ending rest 0 with
  | none => fail .expectedStringEnd
  | some i =>
    advance (i + hashes.length + 1)
    return text (rest.take i)

def string : ReadM String := do
  if ← consume "\"" then escapedString
  else if ← consume "r" then rawString
  else fail .expectedString

/-- Reads a character literal. -/
def character : ReadM Char := do
  if !(← consume (String.singleton (Char.ofNat 0x27))) then fail .expectedChar
  let b ← peekOrEof
  let c ← if b == byte '\\' then do
      advance 1
      escape
    else do
      let rest := (← get).rest
      match (rest.take 5).idxOf? (byte (Char.ofNat 0x27)) with
      | none => fail .expectedChar
      | some pos =>
        match (text (rest.take pos)).toList with
        | [c] =>
          advance pos
          pure c
        | _ => fail .expectedChar
  if !(← consume (String.singleton (Char.ofNat 0x27))) then fail .expectedChar
  return c

def isFloatByte (b : UInt8) : Bool :=
  (byte '0' ≤ b && b ≤ byte '9') || b == byte '.' || b == byte '+' || b == byte '-' ||
    b == byte 'e' || b == byte 'E' || b == byte '_'

def isIntegerByte (b : UInt8) : Bool :=
  (byte '0' ≤ b && b ≤ byte '9') || (byte 'a' ≤ b && b ≤ byte 'f') ||
    (byte 'A' ≤ b && b ≤ byte 'F') || b == byte '_'

def nan : Float := 0.0 / 0.0

/-- Reads a float: one of the words `inf`, `+inf`, `-inf`, `NaN`, `+NaN` and `-NaN`, or the run
of float bytes read as a decimal number. An underscore in the run is an error at its place. -/
def float : ReadM Float := do
  if ← consumeIdent "inf" then return Decimal.infinity
  if ← consumeIdent "+inf" then return Decimal.infinity
  if ← consumeIdent "-inf" then return -Decimal.infinity
  if ← consumeIdent "NaN" then return nan
  if ← consumeIdent "+NaN" then return nan
  if ← consumeIdent "-NaN" then return nan
  let run := (← get).rest.takeWhile isFloatByte
  match run.idxOf? (byte '_') with
  | some i =>
    advance i
    fail .floatUnderscore
  | none =>
    match Decimal.readFloat? (text run) with
    | some f =>
      advance run.length
      return f
    | none => fail .expectedFloat

/-- The value of digits in `base`, underscores passed over; `none` when a digit is not one of
the base. -/
def digitsValue (base : Nat) : List UInt8 → Nat → Option Nat
  | [], acc => some acc
  | b :: rest, acc =>
    if b == byte '_' then digitsValue base rest acc
    else
      let d :=
        if byte '0' ≤ b && b ≤ byte '9' then (b - byte '0').toNat
        else if byte 'a' ≤ b && b ≤ byte 'f' then (b - byte 'a' + 10).toNat
        else (b - byte 'A' + 10).toNat
      if d ≥ base then none else digitsValue base rest (acc * base + d)

/-- Reads an integer after its sign, with an optional base prefix `0x`, `0b` or `0o`: its value
when it lies in `lo ..= hi`. The reader moves past the prefix and the digits even when they do
not make such a value, and stays before empty digits or a leading underscore. -/
def integer (negative : Bool) (lo hi : Int) : ReadM (Option Int) := do
  let base := match (← get).rest with
    | 0x30 :: 0x78 :: _ => 16
    | 0x30 :: 0x62 :: _ => 2
    | 0x30 :: 0x6F :: _ => 8
    | _ => 10
  if base != 10 then advance 2
  let digits := (← get).rest.takeWhile isIntegerByte
  if digits.isEmpty || digits.head? == some (byte '_') then return none
  advance digits.length
  return (digitsValue base digits 0).bind fun n =>
    let v : Int := if negative then -(n : Int) else n
    if lo ≤ v && v ≤ hi then some v else none

/-- Reads a number. It is a float when its run of float bytes, after a sign, is longer than its
run of integer bytes. Else it is read as an integer, signed in the 128-bit range after a sign
and unsigned in it without one, and an integer outside the 64-bit signed range becomes the
nearest double. When no such integer is written, the bytes are read again from the start as a
float, the column staying where the integer reading left it. -/
def number : ReadM Value := do
  let start := (← get).rest
  let first := start.head?.getD 0
  let signed := first == byte '+' || first == byte '-'
  let body := if signed then start.drop 1 else start
  if (body.takeWhile isFloatByte).length > (body.takeWhile isIntegerByte).length then
    return .float (← float)
  if signed then advance 1
  let read ← if signed then integer (first == byte '-') (-Int.pow 2 127) (Int.pow 2 127 - 1)
    else integer false 0 (Int.pow 2 128 - 1)
  match read with
  | some i => return if -Int.pow 2 63 ≤ i && i < Int.pow 2 63 then .integer i else .float (Float.ofInt i)
  | none =>
    modify fun r => { r with rest := start }
    return .float (← float)

def isTuple : ReadM Bool := do
  match ← identifier? with
  | none => return true
  | some _ =>
    blanks
    return (← eatByte) != byte ':'

def hasMember (terminator : UInt8) (hadComma : Bool) : ReadM Bool := do
  blanks
  let more := (← peekOrEof) != terminator
  if hadComma then return more
  else if !more then return false
  else fail .expectedComma

/-- Puts an entry into entries kept in key order, replacing the value of an equal key. -/
def insertEntry (order : Value → Value → Ordering) (k v : Value) :
    List (Value × Value) → List (Value × Value)
  | [] => [(k, v)]
  | (k', v') :: rest =>
    match order k k' with
    | .lt => (k, v) :: (k', v') :: rest
    | .eq => (k', v) :: rest
    | .gt => (k', v') :: insertEntry order k v rest

/-- The place of a kind of value in the order of values. -/
def Value.rank : Value → Nat
  | .bool _ => 0
  | .char _ => 1
  | .map _ => 2
  | .integer _ => 3
  | .float _ => 4
  | .option _ => 5
  | .string _ => 6
  | .seq _ => 7
  | .unit => 8

def floatOrder (a b : Float) : Ordering :=
  match a.isNaN, b.isNaN with
  | true, true => .eq
  | false, true => .gt
  | true, false => .lt
  | false, false => if a < b then .lt else if b < a then .gt else .eq

mutual

/-- The order of values: first by kind, then by contents. -/
def Value.order : Value → Value → Ordering
  | .bool a, .bool b => compare a b
  | .char a, .char b => compare a b
  | .map xs, .map ys => entriesOrder xs ys
  | .integer a, .integer b => compare a b
  | .float a, .float b => floatOrder a b
  | .option none, .option none => .eq
  | .option none, .option (some _) => .lt
  | .option (some _), .option none => .gt
  | .option (some a), .option (some b) => Value.order a b
  | .string a, .string b => compare a b
  | .seq xs, .seq ys => itemsOrder xs ys
  | a, b => compare a.rank b.rank

/-- Compares lists of values, item by item. -/
def itemsOrder : List Value → List Value → Ordering
  | [], [] => .eq
  | [], _ :: _ => .lt
  | _ :: _, [] => .gt
  | a :: as, b :: bs =>
    match Value.order a b with
    | .eq => itemsOrder as bs
    | o => o

/-- Compares lists of entries, key then value, entry by entry. -/
def entriesOrder : List (Value × Value) → List (Value × Value) → Ordering
  | [], [] => .eq
  | [], _ :: _ => .lt
  | _ :: _, [] => .gt
  | (ka, va) :: as, (kb, vb) :: bs =>
    match Value.order ka kb with
    | .eq =>
      match Value.order va vb with
      | .eq => entriesOrder as bs
      | o => o
    | o => o

end

mutual

/-- Reads any value. -/
def value : Nat → ReadM Value
  | 0 => fail .eof
  | fuel + 1 => do
    if ← consumeIdent "true" then return .bool true
    if ← consumeIdent "false" then return .bool false
    if ← checkIdent "Some" then return ← option fuel
    if ← consumeIdent "None" then return .option none
    if ← consume "()" then return .unit
    if ← consumeIdent "inf" then return .float Decimal.infinity
    if ← consumeIdent "-inf" then return .float (-Decimal.infinity)
    if ← consumeIdent "NaN" then return .float nan
    if (← identifier?).isSome then
      blanks
      return ← structLike fuel
    let b ← peekOrEof
    if b == byte '(' then structLike fuel
    else if b == byte '[' then list fuel
    else if b == byte '\x7b' then mapping fuel
    else if (byte '0' ≤ b && b ≤ byte '9') || b == byte '+' || b == byte '-' then number
    else if b == byte '.' then return .float (← float)
    else if b == byte '"' || b == byte 'r' then return .string (← string)
    else if b == byte (Char.ofNat 0x27) then return .char (← character)
    else fail (.unexpectedByte (byteChar b))
termination_by fuel => (fuel, 0)

/-- Reads an option after the word `Some`: `Some(value)`, or with `implicit_some` a bare
value. -/
def option : Nat → ReadM Value
  | 0 => fail .eof
  | fuel + 1 => do
    if ← consume "None" then return .option none
    let opened ← do
      if ← consume "Some" then
        blanks
        consume "("
      else pure false
    if opened then
      blanks
      let v ← value fuel
      blanks
      if ← consume ")" then return .option (some v) else fail .expectedOptionEnd
    else if (← get).implicitSome then return .option (some (← value fuel))
    else fail .expectedOption
termination_by fuel => (fuel, 0)

/-- Reads what follows a struct name, or a parenthesis: a unit when no parenthesis opens, else
a tuple or the fields of a struct. -/
def structLike : Nat → ReadM Value
  | 0 => fail .eof
  | fuel + 1 => do
    let saved ← get
    if ← consume "(" then
      blanks
      let tuple ← isTuple
      set saved
      if tuple then
        let _ ← consume "("
        let items ← members (byte ')') fuel ((← get).rest.length + 1) true []
        let _ ← comma
        if ← consume ")" then return .seq items else fail .expectedArrayEnd
      else
        let _ ← consume "("
        let entries ← fields fuel ((← get).rest.length + 1) true []
        blanks
        if ← consume ")" then return .map entries else fail .expectedStructLikeEnd
    else return .unit
termination_by fuel => (fuel, 0)

/-- Reads a list. -/
def list : Nat → ReadM Value
  | 0 => fail .eof
  | fuel + 1 => do
    if ← consume "[" then
      let items ← members (byte ']') fuel ((← get).rest.length + 1) true []
      let _ ← comma
      if ← consume "]" then return .seq items else fail .expectedArrayEnd
    else fail .expectedArray
termination_by fuel => (fuel, 0)

/-- Reads a map. -/
def mapping : Nat → ReadM Value
  | 0 => fail .eof
  | fuel + 1 => do
    if ← consume "\x7b" then
      let entries ← pairs fuel ((← get).rest.length + 1) true []
      let _ ← comma
      if ← consume "\x7d" then return .map entries else fail .expectedMapEnd
    else fail .expectedMap
termination_by fuel => (fuel, 0)

/-- Reads the members of a list or tuple up to `terminator`. -/
def members (terminator : UInt8) : Nat → Nat → Bool → List Value → ReadM (List Value)
  | 0, _, _, acc => pure acc.reverse
  | _, 0, _, acc => pure acc.reverse
  | fuel + 1, count + 1, hadComma, acc => do
    if ← hasMember terminator hadComma then
      let v ← value fuel
      let c ← comma
      members terminator (fuel + 1) count c (v :: acc)
    else return acc.reverse
termination_by fuel count _ _ => (fuel, count)

/-- Reads the fields of a struct up to its closing parenthesis; each name becomes a string key. -/
def fields : Nat → Nat → Bool → List (Value × Value) → ReadM (List (Value × Value))
  | 0, _, _, acc => pure acc
  | _, 0, _, acc => pure acc
  | fuel + 1, count + 1, hadComma, acc => do
    if ← hasMember (byte ')') hadComma then
      let name ← identifier
      blanks
      if !(← consume ":") then fail .expectedMapColon
      blanks
      let v ← value fuel
      let c ← comma
      fields (fuel + 1) count c (insertEntry Value.order (.string (text name)) v acc)
    else return acc
termination_by fuel count _ _ => (fuel, count)

/-- Reads the entries of a map up to its closing brace. -/
def pairs : Nat → Nat → Bool → List (Value × Value) → ReadM (List (Value × Value))
  | 0, _, _, acc => pure acc
  | _, 0, _, acc => pure acc
  | fuel + 1, count + 1, hadComma, acc => do
    if ← hasMember (byte '\x7d') hadComma then
      let k ← value fuel
      blanks
      if !(← consume ":") then fail .expectedMapColon
      blanks
      let v ← value fuel
      let c ← comma
      pairs (fuel + 1) count c (insertEntry Value.order k v acc)
    else return acc
termination_by fuel count _ _ => (fuel, count)

end

/-- Reads the names of an `enable` attribute after its opening parenthesis. -/
def extensionNames : Nat → List String → ReadM (List String)
  | 0, acc => pure acc
  | fuel + 1, acc => do
    let name := text (← identifier)
    if !(["unwrap_newtypes", "implicit_some", "unwrap_variant_newtypes"].contains name) then
      fail (.noSuchExtension name)
    let c ← comma
    let identNext := ((← get).rest.head?.any isIdentOther)
    if !c && identNext then fail .expectedComma
    if !c || !identNext then return name :: acc
    extensionNames fuel (name :: acc)

/-- Moves past each of the given tokens that comes next, each followed by blanks; whether
all of them were there. A missing token does not stop the ones after it from being read. -/
def consumeAll (parts : List String) : ReadM Bool :=
  parts.foldlM (fun ok part => do
    let here ← consume part
    if here then blanks
    return ok && here) true

/-- Reads one `#![enable(...)]` attribute, if one comes next; the names it enables. -/
def enabling : ReadM (List String) := do
  if (← get).rest.head? != some (byte '#') then return []
  if !(← consumeAll ["#", "!", "[", "enable", "("]) then fail .expectedAttribute
  blanks
  let names ← extensionNames ((← get).rest.length + 1) []
  blanks
  if ← consumeAll [")", "]"] then return names else fail .expectedAttributeEnd

/-- Reads the attributes at the start of a document. -/
def enablings : Nat → ReadM Unit
  | 0 => pure ()
  | fuel + 1 => do
    let names ← enabling
    if names.isEmpty then return ()
    if names.contains "implicit_some" then modify fun r => { r with implicitSome := true }
    blanks
    enablings fuel

/-- Reads a whole document: attributes, one value, and nothing after it but blanks. -/
def document : ReadM Value := do
  blanks
  enablings ((← get).rest.length + 1)
  let v ← value (4 * (← get).rest.length + 8)
  blanks
  if !(← get).rest.isEmpty then fail .trailingCharacters
  return v

def read (t : String) : Except Error Value :=
  (document.run' { rest := t.toUTF8.toList })

end VoiceSession.Ron
