import VoiceSession.Text.Blank
import VoiceSession.Text.Escape
/-!
# INI documents

An INI document is a list of sections of `key = value` properties (`:` may stand for `=`);
properties before the first section header belong to the unnamed general section. Lines whose
first character is `;` or `#` are comments; a comment further right on a line is refused.
-/

namespace VoiceSession.Ini

structure Error where
  line : Nat
  column : Nat
  message : String
  deriving DecidableEq, Repr

def Error.text (e : Error) : String := toString e.line ++ ":" ++ toString e.column ++ " " ++ e.message

structure Section where
  name : Option String
  properties : List (String × String)
  deriving DecidableEq, Repr

structure Reader where
  rest : List Char
  line : Nat
  column : Nat

namespace Reader

def account (r : Reader) : Reader :=
  match r.rest with
  | '\n' :: _ => { r with line := r.line + 1, column := 0 }
  | _ :: _ => { r with column := r.column + 1 }
  | [] => r

def start (text : String) : Reader := account { rest := text.toList, line := 0, column := 0 }

def current (r : Reader) : Option Char := r.rest.head?

def bump (r : Reader) : Reader := account { r with rest := r.rest.tail }

def fail {α : Type} (r : Reader) (message : String) : Except Error α :=
  .error { line := r.line, column := r.column, message := message }

def skipBlanks : Nat → Reader → Reader
  | 0, r => r
  | n + 1, r =>
    match r.current with
    | some c => if Text.isBlank c then skipBlanks n r.bump else r
    | none => r

def skipSpaces : Nat → Reader → Reader
  | 0, r => r
  | n + 1, r =>
    match r.current with
    | some c => if c != '\n' && c != '\r' && Text.isBlank c then skipSpaces n r.bump else r
    | none => r

def skipComment : Nat → Reader → Reader
  | 0, r => r
  | n + 1, r =>
    match r.current with
    | some c => if c == '\n' then r.bump else skipComment n r.bump
    | none => r

def showEnd : Option Char → String
  | some c => "Some(" ++ Text.Escape.charLiteral c ++ ")"
  | none => "None"

def endMessage (ends : List (Option Char)) : String :=
  "expecting \"[" ++ ", ".intercalate (ends.map showEnd) ++ "]\" but found EOF."

/-- Reads a hexadecimal code: an optional `+` and one or more digits. -/
def hexCode (cs : List Char) : Option Nat :=
  let ds := match cs with
    | '+' :: rest => rest
    | rest => rest
  if ds.isEmpty then none
  else ds.foldlM (fun n c =>
    if '0' ≤ c && c ≤ '9' then some (n * 16 + (c.toNat - 48))
    else if 'a' ≤ c && c ≤ 'f' then some (n * 16 + (c.toNat - 87))
    else if 'A' ≤ c && c ≤ 'F' then some (n * 16 + (c.toNat - 55))
    else none) 0

/-- Reads the four characters of a `\x` escape. -/
def hexDigits (ends : List (Option Char)) : Nat → Reader → List Char → Except Error (List Char × Reader)
  | 0, r, acc => .ok (acc.reverse, r)
  | k + 1, r, acc => do
    let r := r.bump
    match r.current with
    | none => r.fail (endMessage ends)
    | some c =>
      if c == '\\' then
        let r2 := r.bump
        if r2.current != some '\n' then
          r2.fail ("expecting \"\\\\n\" but found \"" ++ showEnd r2.current ++ "\".")
        else hexDigits ends k r2 (c :: acc)
      else hexDigits ends k r (c :: acc)

/-- Reads characters up to one of `ends`, resolving escapes. -/
def upTo (ends : List (Option Char)) : Nat → Reader → List Char → Except Error (String × Reader)
  | 0, r, acc => .ok (String.ofList acc.reverse, r)
  | n + 1, r, acc =>
    if ends.contains r.current then .ok (String.ofList acc.reverse, r)
    else
      match r.current with
      | none => r.fail (endMessage ends)
      | some '\\' =>
        let r := r.bump
        match r.current with
        | none => r.fail (endMessage ends)
        | some e =>
          let simple (c : Char) := upTo ends n r.bump (c :: acc)
          match e with
          | '0' => simple (Char.ofNat 0)
          | 'a' => simple (Char.ofNat 7)
          | 'b' => simple (Char.ofNat 8)
          | 't' => simple '\t'
          | 'r' => simple '\r'
          | 'n' => simple '\n'
          | '\n' => upTo ends n r.bump acc
          | 'x' => do
            let (code, r) ← hexDigits ends 4 r []
            match hexCode code with
            | some v =>
              if v < 0xD800 || (0xDFFF < v && v ≤ 0x10FFFF) then upTo ends n r.bump (Char.ofNat v :: acc)
              else r.fail "unknown character in \\xHH form"
            | none => r.fail "unknown character in \\xHH form"
          | c => simple c
      | some c => upTo ends n r.bump (c :: acc)

/-- Reads a value after its `=`: up to the end of the line, or a quoted text and the rest of
its line. -/
def value (r : Reader) : Except Error (String × Reader) := do
  let r := skipSpaces (r.rest.length + 1) r.bump
  let lineEnd : List (Option Char) := [some '\n', some '\r', none]
  let fuel := r.rest.length + 1
  match r.current with
  | none => .ok ("", r)
  | some q =>
    if q == '"' || q.toNat == 0x27 then do
      let (inner, r) ← upTo [some q] fuel r.bump []
      let (tail, r) ← upTo lineEnd fuel r.bump []
      return (inner ++ tail, r)
    else upTo lineEnd fuel r []

end Reader

structure Progress where
  sections : List Section := [{ name := none, properties := [] }]
  key : String := ""

def Progress.add (p : Progress) (k v : String) : Progress :=
  match p.sections.reverse with
  | last :: before =>
    { p with sections := (before.reverse ++ [{ last with properties := last.properties ++ [(k, v)] }]) }
  | [] => { p with sections := [{ name := none, properties := [(k, v)] }] }

/-- Reads the lines of a document. -/
def readLines : Nat → Reader → Progress → Except Error Progress
  | 0, _, p => .ok p
  | n + 1, r, p =>
    match r.current with
    | none => .ok p
    | some c =>
      let fuel := r.rest.length + 1
      let next (r : Reader) (p : Progress) := readLines n (Reader.skipBlanks (r.rest.length + 1) r) p
      if c == ';' || c == '#' then
        if r.column > 1 then r.fail "doesn't support inline comment"
        else next (Reader.skipComment fuel r) p
      else if c == '[' then do
        let (name, r) ← Reader.upTo [some ']'] fuel r.bump []
        let r := if r.current == some ']' then r.bump else r
        next r { p with sections := p.sections ++ [{ name := some (Text.trim name), properties := [] }] }
      else if c == '=' || c == ':' then
        if p.key.isEmpty then r.fail "missing key"
        else do
          let (v, r) ← Reader.value r
          next r { p.add p.key (Text.trim v) with key := "" }
      else do
        let (k, r) ← Reader.upTo [some '=', some ':'] fuel r []
        next r { p with key := Text.trim k }

def read (text : String) : Except Error (List Section) := do
  let r := Reader.start text
  let p ← readLines (r.rest.length + 1) (Reader.skipBlanks (r.rest.length + 1) r) {}
  return p.sections

end VoiceSession.Ini
