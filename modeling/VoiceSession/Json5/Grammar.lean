import VoiceSession.Peg.Expr
import VoiceSession.Text.Category
/-!
# The JSON5 grammar

JSON5 extends JSON with what ECMAScript 5.1 allows in literals: comments, unquoted keys that are
identifiers, single-quoted strings, escapes such as `\v`, `\0` and `\x41`, line continuations in
strings, hexadecimal numbers, numbers with a leading or trailing point or a plus sign,
`Infinity` and `NaN`, and a comma after the last member of an array or object.
-/

namespace VoiceSession.Json5

open Peg

/-- The rules of the JSON5 grammar. -/
inductive Rule where
  | eoi
  | comment
  | whitespace
  | array
  | boolean
  | charEscapeSequence
  | charLiteral
  | decimalIntegerLiteral
  | decimalLiteral
  | doubleQuoteChar
  | escapeChar
  | escapeSequence
  | exponentPart
  | hexEscapeSequence
  | hexIntegerLiteral
  | identifier
  | identifierPart
  | identifierStart
  | key
  | lineContinuation
  | lineTerminator
  | lineTerminatorSequence
  | nonEscapeChar
  | nulEscapeSequence
  | null
  | number
  | numericLiteral
  | object
  | pair
  | singleEscapeChar
  | singleQuoteChar
  | string
  | text
  | unicodeEscapeSequence
  | unicodeLetter
  | value
  deriving DecidableEq, Repr, Inhabited

namespace Rule

/-- Every rule, in declaration order. -/
def all : List Rule :=
  [.eoi, .comment, .whitespace, .array, .boolean, .charEscapeSequence, .charLiteral,
   .decimalIntegerLiteral, .decimalLiteral, .doubleQuoteChar, .escapeChar, .escapeSequence,
   .exponentPart, .hexEscapeSequence, .hexIntegerLiteral, .identifier, .identifierPart,
   .identifierStart, .key, .lineContinuation, .lineTerminator, .lineTerminatorSequence,
   .nonEscapeChar, .nulEscapeSequence, .null, .number, .numericLiteral, .object, .pair,
   .singleEscapeChar, .singleQuoteChar, .string, .text, .unicodeEscapeSequence, .unicodeLetter,
   .value]

def order (r : Rule) : Nat := all.idxOf r

/-- The name of a rule as messages give it. -/
def name : Rule → String
  | .eoi => "EOI"
  | .comment => "COMMENT"
  | .whitespace => "WHITESPACE"
  | .array => "array"
  | .boolean => "boolean"
  | .charEscapeSequence => "char_escape_sequence"
  | .charLiteral => "char_literal"
  | .decimalIntegerLiteral => "decimal_integer_literal"
  | .decimalLiteral => "decimal_literal"
  | .doubleQuoteChar => "double_quote_char"
  | .escapeChar => "escape_char"
  | .escapeSequence => "escape_sequence"
  | .exponentPart => "exponent_part"
  | .hexEscapeSequence => "hex_escape_sequence"
  | .hexIntegerLiteral => "hex_integer_literal"
  | .identifier => "identifier"
  | .identifierPart => "identifier_part"
  | .identifierStart => "identifier_start"
  | .key => "key"
  | .lineContinuation => "line_continuation"
  | .lineTerminator => "line_terminator"
  | .lineTerminatorSequence => "line_terminator_sequence"
  | .nonEscapeChar => "non_escape_char"
  | .nulEscapeSequence => "nul_escape_sequence"
  | .null => "null"
  | .number => "number"
  | .numericLiteral => "numeric_literal"
  | .object => "object"
  | .pair => "pair"
  | .singleEscapeChar => "single_escape_char"
  | .singleQuoteChar => "single_quote_char"
  | .string => "string"
  | .text => "text"
  | .unicodeEscapeSequence => "unicode_escape_sequence"
  | .unicodeLetter => "unicode_letter"
  | .value => "value"

/-- What a match of a rule leaves in the tree. -/
def kind : Rule → Kind
  | .eoi | .array | .object => .normal
  | .comment | .whitespace => .silentAtomic
  | .boolean | .charEscapeSequence | .charLiteral | .hexEscapeSequence | .nulEscapeSequence
  | .null | .number | .unicodeEscapeSequence => .atomic
  | .identifier | .string => .compound
  | _ => .silent

end Rule

section Body

open Expr

abbrev r (x : Rule) : Expr Rule := .call x

abbrev t (s : String) : Expr Rule := .text s

def code (n : Nat) : Expr Rule := .lit [Char.ofNat n]

def digit : Expr Rule := .range '0' '9'

def hexDigit : Expr Rule := alts [.range '0' '9', .range 'a' 'f', .range 'A' 'F']

/-- The body of each rule. -/
def Rule.body : Rule → Expr Rule
  | .eoi => .finish
  | .comment =>
    .alt (seqs [t "/*", .many (.seq (.notAhead (t "*/")) .any), t "*/"])
      (.seq (t "//") (.many (.seq (.notAhead (r .lineTerminator)) .any)))
  | .whitespace =>
    alts [code 0x9, code 0xB, code 0xC, code 0x20, code 0xA0, code 0xFEFF,
      .charIn Text.Category.spaceSeparators.has, r .lineTerminator]
  | .array =>
    .alt (.seq (t "[") (t "]"))
      (seqs [t "[", r .value, .many (.seq (t ",") (r .value)), .opt (t ","), t "]"])
  | .boolean => .alt (t "true") (t "false")
  | .charEscapeSequence => .alt (r .singleEscapeChar) (r .nonEscapeChar)
  | .charLiteral => .seq (.notAhead (.alt (t "\\") (r .lineTerminator))) .any
  | .decimalIntegerLiteral => .alt (t "0") (.seq (.range '1' '9') (.many digit))
  | .decimalLiteral =>
    alts [seqs [r .decimalIntegerLiteral, t ".", .many digit, .opt (r .exponentPart)],
      seqs [t ".", .many1 digit, .opt (r .exponentPart)],
      .seq (r .decimalIntegerLiteral) (.opt (r .exponentPart))]
  | .doubleQuoteChar =>
    alts [.seq (t "\\") (r .escapeSequence), r .lineContinuation,
      .seq (.notAhead (t "\"")) (r .charLiteral)]
  | .escapeChar => alts [r .singleEscapeChar, digit, t "x", t "u"]
  | .escapeSequence =>
    alts [r .charEscapeSequence, r .nulEscapeSequence, .seq (t "x") (r .hexEscapeSequence),
      .seq (t "u") (r .unicodeEscapeSequence)]
  | .exponentPart => seqs [.litCaseless ['e'], .opt (.alt (t "+") (t "-")), .many1 digit]
  | .hexEscapeSequence => times hexDigit 2
  | .hexIntegerLiteral => .seq (.litCaseless ['0', 'x']) (.many1 hexDigit)
  | .identifier => .seq (r .identifierStart) (.many (r .identifierPart))
  | .identifierPart =>
    .alt (r .identifierStart)
      (.seq (.ahead (alts [.charIn Text.Category.identifierMarks.has, code 0x200C, code 0x200D]))
        (r .charLiteral))
  | .identifierStart =>
    .alt (.seq (.ahead (alts [r .unicodeLetter, t "$", t "_"])) (r .charLiteral))
      (.seq (t "\\u") (r .unicodeEscapeSequence))
  | .key => .alt (r .identifier) (r .string)
  | .lineContinuation => .seq (t "\\") (r .lineTerminatorSequence)
  | .lineTerminator => alts [code 0xA, code 0xD, code 0x2028, code 0x2029]
  | .lineTerminatorSequence => .alt (.seq (code 0xD) (code 0xA)) (r .lineTerminator)
  | .nonEscapeChar => .seq (.notAhead (.alt (r .escapeChar) (r .lineTerminator))) .any
  | .nulEscapeSequence => t "0"
  | .null => t "null"
  | .number => .seq (.opt (.alt (t "+") (t "-"))) (r .numericLiteral)
  | .numericLiteral =>
    alts [r .hexIntegerLiteral, r .decimalLiteral, t "Infinity", t "NaN"]
  | .object =>
    .alt (.seq (t "\x7b") (t "\x7d"))
      (seqs [t "\x7b", r .pair, .many (.seq (t ",") (r .pair)), .opt (t ","), t "\x7d"])
  | .pair => seqs [r .key, t ":", r .value]
  | .singleEscapeChar =>
    alts [.lit [Char.ofNat 0x27], t "\"", t "\\", t "b", t "f", t "n", t "r", t "t", t "v"]
  | .singleQuoteChar =>
    alts [.seq (t "\\") (r .escapeSequence), r .lineContinuation,
      .seq (.notAhead (.lit [Char.ofNat 0x27])) (r .charLiteral)]
  | .string =>
    .alt (seqs [t "\"", .many (r .doubleQuoteChar), t "\""])
      (seqs [.lit [Char.ofNat 0x27], .many (r .singleQuoteChar), .lit [Char.ofNat 0x27]])
  | .text => seqs [.start, r .value, r .eoi]
  | .unicodeEscapeSequence => times hexDigit 4
  | .unicodeLetter => .charIn Text.Category.letters.has
  | .value => alts [r .null, r .boolean, r .string, r .number, r .object, r .array]

end Body

/-- The JSON5 grammar. -/
def grammar : Grammar Rule where
  kind := Rule.kind
  body := Rule.body
  name := Rule.name
  order := Rule.order
  whitespace := .whitespace
  comment := .comment

end VoiceSession.Json5
