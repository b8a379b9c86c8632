import VoiceSession.Toml.Error
/-!
# TOML tokens

The lexer turns a document into blanks, newlines, comments, punctuation, key-like words and the
four forms of strings, at byte offsets. Each lexer function reads at least one character or
fails, so each runs with fuel equal to what is left of the input.
-/

namespace VoiceSession.Toml

/-- A token. -/
inductive Token where
  | whitespace (text : String)
  | newline
  | comment
  | equals
  | period
  | comma
  | colon
  | plus
  | leftBrace
  | rightBrace
  | leftBracket
  | rightBracket
  | keylike (text : String)
  | string (value : String) (multiline : Bool)
  deriving DecidableEq, Repr

/-- How a token is named in messages. -/
def Token.describe : Token → String
  | .keylike _ => "an identifier"
  | .equals => "an equals"
  | .period => "a period"
  | .comment => "a comment"
  | .newline => "a newline"
  | .whitespace _ => "whitespace"
  | .comma => "a comma"
  | .rightBrace => "a right brace"
  | .leftBrace => "a left brace"
  | .rightBracket => "a right bracket"
  | .leftBracket => "a left bracket"
  | .string _ m => if m then "a multiline string" else "a string"
  | .colon => "a colon"
  | .plus => "a plus"

/-- Whether two tokens are of the same kind, as `expect` and `eat` compare them: the text of
words and strings matters, that of blanks too. -/
def Token.same (a b : Token) : Bool := a == b

structure Spanned where
  start : Nat
  stop : Nat
  token : Token
  deriving Repr

structure Lexer where
  rest : List Char
  offset : Nat
  deriving Repr

namespace Lexer

def ofText (text : String) : Lexer :=
  match text.toList with
  | c :: rest => if c.toNat == 0xFEFF then { rest := rest, offset := 3 } else { rest := c :: rest, offset := 0 }
  | [] => { rest := [], offset := 0 }

def peek (lx : Lexer) : Option Char :=
  match lx.rest with
  | '\r' :: '\n' :: _ => some '\n'
  | c :: _ => some c
  | [] => none

def bump (lx : Lexer) : Lexer :=
  match lx.rest with
  | '\r' :: '\n' :: r => { rest := r, offset := lx.offset + 2 }
  | c :: r => { rest := r, offset := lx.offset + c.utf8Size }
  | [] => lx

def eatc (lx : Lexer) (c : Char) : Bool × Lexer :=
  if lx.peek == some c then (true, lx.bump) else (false, lx)

def fuel (lx : Lexer) : Nat := lx.rest.length + 1

def skipBlanks : Nat → Lexer → Lexer
  | 0, lx => lx
  | n + 1, lx => if lx.peek == some ' ' || lx.peek == some '\t' then skipBlanks n lx.bump else lx

def skipCommentBody : Nat → Lexer → Lexer
  | 0, lx => lx
  | n + 1, lx =>
    match lx.peek with
    | some c => if c != '\t' && c.toNat < 0x20 then lx else skipCommentBody n lx.bump
    | none => lx

def isKeylike (c : Char) : Bool :=
  ('A' ≤ c && c ≤ 'Z') || ('a' ≤ c && c ≤ 'z') || ('0' ≤ c && c ≤ '9') || c == '-' || c == '_'

def keylikeRest : Nat → Lexer → List Char → List Char × Lexer
  | 0, lx, acc => (acc.reverse, lx)
  | n + 1, lx, acc =>
    match lx.peek with
    | some c => if isKeylike c then keylikeRest n lx.bump (c :: acc) else (acc.reverse, lx)
    | none => (acc.reverse, lx)

def plainInString (c : Char) : Bool := c == '\t' || (0x20 ≤ c.toNat && c.toNat != 0x7F)

/-- Reads the hexadecimal digits of a `\u` or `\U` escape whose letter is at `escAt`. -/
def hexEscape (start escAt : Nat) : Nat → Lexer → Nat → Except Error (Char × Lexer)
  | 0, lx, v =>
    if v < 0xD800 || (0xDFFF < v && v ≤ 0x10FFFF) then .ok (Char.ofNat v, lx)
    else .error (.at_ escAt (.invalidEscapeValue v))
  | k + 1, lx, v =>
    match lx.peek with
    | none => .error (.at_ start .unterminatedString)
    | some c =>
      let d := if '0' ≤ c && c ≤ '9' then some (c.toNat - 48)
        else if 'a' ≤ c && c ≤ 'f' then some (c.toNat - 87)
        else if 'A' ≤ c && c ≤ 'F' then some (c.toNat - 55) else none
      match d with
      | some d => hexEscape start escAt k lx.bump (v * 16 + d)
      | none => .error (.at_ lx.offset (.invalidHexEscape c))

/-- Inside a multi-line basic string, after a backslash and a blank: blanks up to a newline. -/
def lineEndingBackslash (escAt : Nat) (c : Char) : Nat → Lexer → Except Error Lexer
  | 0, lx => .ok lx
  | n + 1, lx =>
    match lx.peek with
    | some ' ' | some '\t' => lineEndingBackslash escAt c n lx.bump
    | some '\n' => .ok lx.bump
    | some _ => .error (.at_ escAt (.invalidEscape c))
    | none => .ok lx

def skipBlankLines : Nat → Lexer → Lexer
  | 0, lx => lx
  | n + 1, lx =>
    match lx.peek with
    | some ' ' | some '\t' | some '\n' => skipBlankLines n lx.bump
    | _ => lx

/-- Reads the body of a string delimited by `delim` whose opening quote is at `start`; `basic`
strings have escapes. Gives the value. -/
def stringBody (basic : Bool) (delim : Char) (start : Nat) (multiline : Bool) :
    Nat → Lexer → List Char → Bool → Except Error (String × Lexer)
  | 0, _, _, _ => .error (.at_ start .unterminatedString)
  | n + 1, lx, acc, first =>
    match lx.peek with
    | none => .error (.at_ start .unterminatedString)
    | some '\n' =>
      if multiline then
        stringBody basic delim start multiline n lx.bump (if first then acc else '\n' :: acc) false
      else .error (.at_ lx.offset .newlineInString)
    | some c =>
      if c == delim then
        let lx1 := lx.bump
        if !multiline then .ok (String.ofList acc.reverse, lx1)
        else
          let (two, lx2) := lx1.eatc delim
          if !two then stringBody basic delim start multiline n lx1 (delim :: acc) false
          else
            let (three, lx3) := lx2.eatc delim
            if !three then stringBody basic delim start multiline n lx2 (delim :: delim :: acc) false
            else
              let (four, lx4) := lx3.eatc delim
              let acc := if four then delim :: acc else acc
              let (five, lx5) := lx4.eatc delim
              let acc := if five then delim :: acc else acc
              .ok (String.ofList acc.reverse, lx5)
      else if basic && c == '\\' then
        let lx1 := lx.bump
        let escAt := lx1.offset
        match lx1.peek with
        | none => .error (.at_ start .unterminatedString)
        | some e =>
          let lx2 := lx1.bump
          let simple (ch : Char) := stringBody basic delim start multiline n lx2 (ch :: acc) false
          match e with
          | '"' => simple '"'
          | '\\' => simple '\\'
          | 'b' => simple (Char.ofNat 8)
          | 'f' => simple (Char.ofNat 12)
          | 'n' => simple '\n'
          | 'r' => simple '\r'
          | 't' => simple '\t'
          | 'u' | 'U' =>
            match hexEscape start escAt (if e == 'u' then 4 else 8) lx2 0 with
            | .ok (ch, lx3) => stringBody basic delim start multiline n lx3 (ch :: acc) false
            | .error err => .error err
          | ' ' | '\t' | '\n' =>
            if multiline then
              let after := if e == '\n' then Except.ok lx2 else lineEndingBackslash escAt e lx2.fuel lx2
              match after with
              | .ok lx3 =>
                stringBody basic delim start multiline n (skipBlankLines lx3.fuel lx3) acc false
              | .error err => .error err
            else .error (.at_ escAt (.invalidEscape e))
          | _ => .error (.at_ escAt (.invalidEscape e))
      else if plainInString c then stringBody basic delim start multiline n lx.bump (c :: acc) false
      else .error (.at_ lx.offset (.invalidCharInString c))

/-- Reads a string whose opening quote `delim` is at the head. -/
def readString (basic : Bool) (delim : Char) (lx : Lexer) : Except Error (Token × Lexer) :=
  let start := lx.offset
  let lx1 := lx.bump
  let (second, lx2) := lx1.eatc delim
  if second then
    let (third, lx3) := lx2.eatc delim
    if third then
      match stringBody basic delim start true lx3.fuel lx3 [] true with
      | .ok (v, lx4) => .ok (.string v true, lx4)
      | .error e => .error e
    else .ok (.string "" false, lx2)
  else
    match stringBody basic delim start false lx1.fuel lx1 [] false with
    | .ok (v, lx2) => .ok (.string v false, lx2)
    | .error e => .error e

/-- Reads the next token. -/
def next (lx : Lexer) : Except Error (Option Spanned × Lexer) :=
  let start := lx.offset
  let simple (t : Token) (after : Lexer) : Except Error (Option Spanned × Lexer) :=
    .ok (some { start := start, stop := after.offset, token := t }, after)
  match lx.peek with
  | none => .ok (none, lx)
  | some c =>
    if c == '\n' then simple .newline lx.bump
    else if c == ' ' || c == '\t' then
      let after := skipBlanks lx.fuel lx
      let text := String.ofList (lx.rest.take (after.offset - start))
      simple (.whitespace text) after
    else if c == '#' then simple .comment (skipCommentBody lx.fuel lx.bump)
    else if c == '=' then simple .equals lx.bump
    else if c == '.' then simple .period lx.bump
    else if c == ',' then simple .comma lx.bump
    else if c == ':' then simple .colon lx.bump
    else if c == '+' then simple .plus lx.bump
    else if c == Char.ofNat 0x7B then simple .leftBrace lx.bump
    else if c == Char.ofNat 0x7D then simple .rightBrace lx.bump
    else if c == '[' then simple .leftBracket lx.bump
    else if c == ']' then simple .rightBracket lx.bump
    else if c.toNat == 0x27 || c == '"' then
      match readString (c == '"') c lx with
      | .ok (t, after) => simple t after
      | .error e => .error e
    else if isKeylike c then
      let (word, after) := keylikeRest lx.fuel lx []
      simple (.keylike (String.ofList word)) after
    else .error (.at_ start (.unexpected c))

end Lexer

end VoiceSession.Toml
