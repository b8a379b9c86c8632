import VoiceSession.Json.Cursor
import VoiceSession.Text.Utf8
/-!
# JSON string literals

`Cursor.string` reads the body of a string literal whose opening quote was read, giving the
text and the cursor after the closing quote. The body is runs of raw bytes between escapes;
every run must be well-formed UTF-8, and the escapes are the JSON ones: `\" \\ \/ \b \f \n
\r \t` and `\uXXXX`, where a leading surrogate must be followed by an escaped trailing one.
-/

namespace VoiceSession.Json

open VoiceSession.Text

def hexValue (b : UInt8) : Option Nat :=
  if 48 ≤ b && b ≤ 57 then some (b.toNat - 48)
  else if 65 ≤ b && b ≤ 70 then some (b.toNat - 55)
  else if 97 ≤ b && b ≤ 102 then some (b.toNat - 87)
  else none

def hex4 (a b c d : UInt8) : Option Nat := do
  return (← hexValue a) * 4096 + (← hexValue b) * 256 + (← hexValue c) * 16 + (← hexValue d)

/-- The character a one-letter escape stands for. -/
def shortEscape (b : UInt8) : Option Char :=
  if b == 34 then some '"'
  else if b == 92 then some '\\'
  else if b == 47 then some '/'
  else if b == 98 then some '\x08'
  else if b == 102 then some '\x0c'
  else if b == 110 then some '\n'
  else if b == 114 then some '\r'
  else if b == 116 then some '\t'
  else none

private def refuse {α : Type} (f : Fault) (p : Position) : Except Error α :=
  .error { fault := f, position := some p }

/-- Decodes the raw run `run` (reversed) that began at column `start`, adding its characters to
`acc` (reversed); the first ill-formed byte is remembered in `bad` as the place past it. -/
def addRun (run : List UInt8) (start : Nat) (acc : List Char) (bad : Option Nat) :
    List Char × Option Nat :=
  match Utf8.decodeFrom 0 run.reverse with
  | .ok cs => (cs.reverse ++ acc, bad)
  | .error k => (acc, bad <|> some (start + k + 1))

/-- Reads a string body from `bytes` at line `line`, column `col`. `run` is the current raw
run (reversed) that began at column `start`, `acc` the characters so far (reversed). -/
def stringBody (line : Nat) : List UInt8 → Nat → List UInt8 → Nat → List Char → Option Nat →
    Except Error (String × Cursor)
  | [], col, _, _, _, _ => refuse .eofWhileParsingString ⟨line, col⟩
  | 34 :: rest, col, run, start, acc, bad =>
    let (acc, bad) := addRun run start acc bad
    match bad with
    | some c => refuse .invalidUnicodeCodePoint ⟨line, c⟩
    | none => .ok (String.ofList acc.reverse, { rest := rest, line := line, column := col + 1 })
  | 92 :: rest, col, run, start, acc, bad =>
    let (acc, bad) := addRun run start acc bad
    match rest with
    | [] => refuse .eofWhileParsingString ⟨line, col + 1⟩
    | 117 :: rest =>
      match rest with
      | a :: b :: c :: d :: tail =>
        let here : Nat := col + 6
        match hex4 a b c d with
        | none => refuse .invalidEscape (Position.after ⟨line, col + 2⟩ [a, b, c, d])
        | some n =>
          if 0xDC00 ≤ n ∧ n ≤ 0xDFFF then refuse .loneLeadingSurrogateInHexEscape ⟨line, here⟩
          else if n < 0xD800 ∨ 0xDBFF < n then
            stringBody line tail here [] here (Char.ofNat n :: acc) bad
          else
            match tail with
            | [] => refuse .eofWhileParsingString ⟨line, here⟩
            | 92 :: tail =>
              match tail with
              | [] => refuse .eofWhileParsingString ⟨line, here + 1⟩
              | 117 :: tail =>
                match tail with
                | a2 :: b2 :: c2 :: d2 :: tail =>
                  match hex4 a2 b2 c2 d2 with
                  | none => refuse .invalidEscape (Position.after ⟨line, here + 2⟩ [a2, b2, c2, d2])
                  | some n2 =>
                    if 0xDC00 ≤ n2 ∧ n2 ≤ 0xDFFF then
                      let code := (n - 0xD800) * 1024 + (n2 - 0xDC00) + 0x10000
                      stringBody line tail (here + 6) [] (here + 6) (Char.ofNat code :: acc) bad
                    else refuse .loneLeadingSurrogateInHexEscape ⟨line, here + 6⟩
                | short => refuse .eofWhileParsingString (Position.after ⟨line, here + 2⟩ short)
              | x :: _ => refuse .unexpectedEndOfHexEscape (Position.after ⟨line, here + 1⟩ [x])
            | x :: _ => refuse .unexpectedEndOfHexEscape (Position.after ⟨line, here⟩ [x])
      | short => refuse .eofWhileParsingString (Position.after ⟨line, col + 2⟩ short)
    | e :: rest =>
      match shortEscape e with
      | some c => stringBody line rest (col + 2) [] (col + 2) (c :: acc) bad
      | none => refuse .invalidEscape (Position.after ⟨line, col + 1⟩ [e])
  | b :: rest, col, run, start, acc, bad =>
    if b < 0x20 then refuse .controlCharacterWhileParsingString (Position.after ⟨line, col⟩ [b])
    else stringBody line rest (col + 1) (b :: run) start acc bad

def Cursor.string (c : Cursor) : Except Error (String × Cursor) :=
  stringBody c.line c.rest c.column [] c.column [] none

/-- Passes over a string body from `bytes` at place `p` without decoding it. -/
def skipBody (p : Position) : List UInt8 → Except Error Cursor
  | [] => refuse .eofWhileParsingString p
  | 34 :: rest => .ok { rest := rest, line := p.line, column := p.column + 1 }
  | 92 :: rest =>
    match rest with
    | [] => refuse .eofWhileParsingString (p.after [92])
    | 117 :: rest =>
      match rest with
      | a :: b :: c :: d :: tail =>
        match hex4 a b c d with
        | none => refuse .invalidEscape (p.after [92, 117, a, b, c, d])
        | some _ => skipBody (p.after [92, 117, a, b, c, d]) tail
      | short => refuse .eofWhileParsingString (p.after (92 :: 117 :: short))
    | e :: rest =>
      match shortEscape e with
      | some _ => skipBody (p.after [92, e]) rest
      | none => refuse .invalidEscape (p.after [92, e])
  | b :: rest =>
    if b < 0x20 then refuse .controlCharacterWhileParsingString p
    else skipBody (p.after [b]) rest

def Cursor.skipString (c : Cursor) : Except Error (Unit × Cursor) :=
  (skipBody c.position c.rest).map fun c => ((), c)

end VoiceSession.Json
