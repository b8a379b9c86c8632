import VoiceSession.Decimal.Layout
import VoiceSession.Text.Escape
/-!
# Why a JSON document was refused

A refusal is either a fault of the text (`Fault`, each with a fixed wording) or a mismatch
between a well-formed value and the shape that was asked for (`Mismatch`). An `Error` carries
one of them and, when it is known, the line and column where reading stopped. Its `message`
is the text shown to the user: the wording, then ` at line L column C` when there is a place.
-/

namespace VoiceSession.Json

/-- What a value turned out to be, in a mismatch. -/
inductive Unexpected where
  | bool (b : Bool)
  | unsigned (n : Nat)
  | signed (i : Int)
  | double (bits : UInt64)
  | str (s : String)
  | null
  | seq
  | map
  deriving DecidableEq, Repr

/-- How a mismatch names what was found. -/
def Unexpected.describe : Unexpected → String
  | .bool b => "boolean `" ++ (if b then "true" else "false") ++ "`"
  | .unsigned n => "integer `" ++ toString n ++ "`"
  | .signed i => "integer `" ++ toString i ++ "`"
  | .double bits => "floating point `" ++ Decimal.Layout.json.write (Float.ofBits bits) ++ "`"
  | .str s => "string " ++ Text.Escape.quoted s
  | .null => "null"
  | .seq => "sequence"
  | .map => "map"

def oneOf (names : List String) : String :=
  match names with
  | [a] => "`" ++ a ++ "`"
  | [a, b] => "`" ++ a ++ "` or `" ++ b ++ "`"
  | _ => "one of " ++ ", ".intercalate (names.map fun n => "`" ++ n ++ "`")

/-- A well-formed value of the wrong shape. -/
inductive Mismatch where
  | invalidType (found : Unexpected) (expected : String)
  | invalidValue (found : Unexpected) (expected : String)
  | invalidLength (length : Nat) (expected : String)
  | unknownVariant (name : String) (variants : List String)
  | missingField (name : String)
  | duplicateField (name : String)
  deriving DecidableEq, Repr

/-- The wording of a mismatch. -/
def Mismatch.message : Mismatch → String
  | .invalidType found expected => "invalid type: " ++ found.describe ++ ", expected " ++ expected
  | .invalidValue found expected => "invalid value: " ++ found.describe ++ ", expected " ++ expected
  | .invalidLength n expected => "invalid length " ++ toString n ++ ", expected " ++ expected
  | .unknownVariant name [] => "unknown variant `" ++ name ++ "`, there are no variants"
  | .unknownVariant name variants => "unknown variant `" ++ name ++ "`, expected " ++ oneOf variants
  | .missingField name => "missing field `" ++ name ++ "`"
  | .duplicateField name => "duplicate field `" ++ name ++ "`"

/-- A fault of the text, or a mismatch of shape. -/
inductive Fault where
  | eofWhileParsingList
  | eofWhileParsingObject
  | eofWhileParsingString
  | eofWhileParsingValue
  | expectedColon
  | expectedListCommaOrEnd
  | expectedObjectCommaOrEnd
  | expectedSomeIdent
  | expectedSomeValue
  | invalidEscape
  | invalidNumber
  | numberOutOfRange
  | invalidUnicodeCodePoint
  | controlCharacterWhileParsingString
  | keyMustBeAString
  | loneLeadingSurrogateInHexEscape
  | trailingComma
  | trailingCharacters
  | unexpectedEndOfHexEscape
  | recursionLimitExceeded
  | mismatch (m : Mismatch)
  deriving DecidableEq, Repr

/-- The wording of a fault. -/
def Fault.message : Fault → String
  | .eofWhileParsingList => "EOF while parsing a list"
  | .eofWhileParsingObject => "EOF while parsing an object"
  | .eofWhileParsingString => "EOF while parsing a string"
  | .eofWhileParsingValue => "EOF while parsing a value"
  | .expectedColon => "expected `:`"
  | .expectedListCommaOrEnd => "expected `,` or `]`"
  | .expectedObjectCommaOrEnd => "expected `,` or `\x7d`"
  | .expectedSomeIdent => "expected ident"
  | .expectedSomeValue => "expected value"
  | .invalidEscape => "invalid escape"
  | .invalidNumber => "invalid number"
  | .numberOutOfRange => "number out of range"
  | .invalidUnicodeCodePoint => "invalid unicode code point"
  | .controlCharacterWhileParsingString =>
    "control character (\\u0000-\\u001F) found while parsing a string"
  | .keyMustBeAString => "key must be a string"
  | .loneLeadingSurrogateInHexEscape => "lone leading surrogate in hex escape"
  | .trailingComma => "trailing comma"
  | .trailingCharacters => "trailing characters"
  | .unexpectedEndOfHexEscape => "unexpected end of hex escape"
  | .recursionLimitExceeded => "recursion limit exceeded"
  | .mismatch m => m.message

structure Position where
  line : Nat
  column : Nat
  deriving DecidableEq, Repr

structure Error where
  fault : Fault
  position : Option Position := none
  deriving DecidableEq, Repr

def Error.message (e : Error) : String :=
  match e.position with
  | some p => e.fault.message ++ " at line " ++ toString p.line ++ " column " ++ toString p.column
  | none => e.fault.message

def Error.ofMismatch (m : Mismatch) : Error := { fault := .mismatch m }

end VoiceSession.Json
