/-!
# TOML errors

A TOML error has a kind, the keys leading to the value it concerns (outermost first) and, when
known, the byte offset it was found at. Its message is the kind's text, then
`` for key `a.b` `` when keys are known, then `at line L column C`, both counted from one, the
column in bytes.
-/

namespace VoiceSession.Toml

/-- What went wrong. -/
inductive ErrorKind where
  | unexpectedEof
  | invalidCharInString (c : Char)
  | invalidEscape (c : Char)
  | invalidHexEscape (c : Char)
  | invalidEscapeValue (v : Nat)
  | newlineInString
  | unexpected (c : Char)
  | unterminatedString
  | wanted (expected found : String)
  | numberInvalid
  | dateInvalid
  | duplicateTable (name : String)
  | redefineAsArray
  | multilineStringKey
  | custom (message : String)
  | dottedKeyInvalidType
  | unquotedString
  deriving DecidableEq, Repr

/-- A character written with escapes for everything but printable ASCII. -/
def escapeDefault (c : Char) : String :=
  let n := c.toNat
  if c == '\t' then "\\t"
  else if c == '\r' then "\\r"
  else if c == '\n' then "\\n"
  else if n == 0x27 then "\\" ++ String.singleton c
  else if c == '"' then "\\\""
  else if c == '\\' then "\\\\"
  else if 0x20 ≤ n && n ≤ 0x7E then String.singleton c
  else
    let hex := (Nat.toDigits 16 n)
    "\\u" ++ String.singleton (Char.ofNat 0x7B) ++ String.ofList hex ++ String.singleton (Char.ofNat 0x7D)

/-- The text of an error kind. -/
def ErrorKind.describe : ErrorKind → String
  | .unexpectedEof => "unexpected eof encountered"
  | .invalidCharInString c => "invalid character in string: `" ++ escapeDefault c ++ "`"
  | .invalidEscape c => "invalid escape character in string: `" ++ escapeDefault c ++ "`"
  | .invalidHexEscape c => "invalid hex escape character in string: `" ++ escapeDefault c ++ "`"
  | .invalidEscapeValue v => "invalid escape value: `" ++ toString v ++ "`"
  | .newlineInString => "newline in string found"
  | .unexpected c => "unexpected character found: `" ++ escapeDefault c ++ "`"
  | .unterminatedString => "unterminated string"
  | .wanted e f => "expected " ++ e ++ ", found " ++ f
  | .numberInvalid => "invalid number"
  | .dateInvalid => "invalid date"
  | .duplicateTable name => "redefinition of table `" ++ name ++ "`"
  | .redefineAsArray => "table redefined as array"
  | .multilineStringKey => "multiline strings are not allowed for key"
  | .custom m => m
  | .dottedKeyInvalidType => "dotted key attempted to extend non-table type"
  | .unquotedString => "invalid TOML value, did you mean to use a quoted string?"

structure Error where
  kind : ErrorKind
  offset : Option Nat := none
  keys : List String := []
  deriving DecidableEq, Repr

namespace Error

def at_ (offset : Nat) (kind : ErrorKind) : Error := { kind := kind, offset := some offset }

def underKey (e : Error) (key : String) : Error := { e with keys := key :: e.keys }

def placeAt (e : Error) (offset : Option Nat) : Error :=
  match e.offset with
  | some _ => e
  | none => { e with offset := offset }

/-- Line and column, from zero, of a byte offset: lines end at `\n`, which belongs to the line it
ends; an offset past the last line is on the line after it, column zero. -/
def lineColumn (lines : List Nat) (offset : Nat) : Nat × Nat :=
  let rec go : List Nat → Nat → Nat → Nat × Nat
    | [], i, _ => (i, 0)
    | len :: rest, i, start =>
      if start + len + 1 > offset then (i, offset - start) else go rest (i + 1) (start + len + 1)
  go lines 0 0

def lineLengths (text : String) : List Nat :=
  let parts := text.splitOn "\n"
  let parts := if parts.getLast? == some "" then parts.dropLast else parts
  parts.map String.utf8ByteSize

/-- The message of an error in a document. -/
def message (e : Error) (text : String) : String :=
  let keys := if e.keys.isEmpty then "" else " for key `" ++ ".".intercalate e.keys ++ "`"
  let place := match e.offset with
    | some o =>
      let (l, c) := lineColumn (lineLengths text) o
      " at line " ++ toString (l + 1) ++ " column " ++ toString (c + 1)
    | none => ""
  e.kind.describe ++ keys ++ place

end Error

end VoiceSession.Toml
