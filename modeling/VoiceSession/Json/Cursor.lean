import VoiceSession.Json.Error
/-!
# Reading position in a JSON text

A `Cursor` is the unread rest of the bytes with the line and column reached so far. Faults are
placed in one of two ways: at the cursor (`Scan.fail`), or one byte further, at the byte the
reader was looking at (`Scan.failAhead`). A mismatch found while reading a value gets the place
where that value's reading ended (`Scan.placed`).
-/

namespace VoiceSession.Json

structure Cursor where
  rest : List UInt8
  line : Nat := 1
  column : Nat := 0
  deriving Repr

def Position.after (p : Position) : List UInt8 → Position
  | [] => p
  | b :: rest => Position.after (if b == 10 then ⟨p.line + 1, 0⟩ else ⟨p.line, p.column + 1⟩) rest

namespace Cursor

def ofBytes (bytes : List UInt8) : Cursor := { rest := bytes }

def position (c : Cursor) : Position := ⟨c.line, c.column⟩

def peekPosition (c : Cursor) : Position :=
  match c.rest with
  | [] => c.position
  | b :: _ => c.position.after [b]

def advance (c : Cursor) : Cursor :=
  match c.rest with
  | [] => c
  | b :: r => let p := c.position.after [b]; { rest := r, line := p.line, column := p.column }

def forward (c : Cursor) : Nat → Cursor
  | 0 => c
  | n + 1 => (c.advance).forward n

def isBlank (b : UInt8) : Bool := b == 32 || b == 10 || b == 9 || b == 13

def skipBlanks (c : Cursor) : Cursor :=
  let blanks := c.rest.takeWhile isBlank
  let p := c.position.after blanks
  { rest := c.rest.drop blanks.length, line := p.line, column := p.column }

end Cursor

abbrev Scan := ExceptT Error (StateM Cursor)

namespace Scan

def peek : Scan (Option UInt8) := do return (← get).rest.head?

def eat : Scan Unit := modify Cursor.advance

def next? : Scan (Option UInt8) := do
  let b ← peek
  eat
  return b

def blank : Scan (Option UInt8) := do
  modify Cursor.skipBlanks
  peek

def fail {α : Type} (f : Fault) : Scan α := do
  throw { fault := f, position := some (← get).position }

def failAhead {α : Type} (f : Fault) : Scan α := do
  throw { fault := f, position := some (← get).peekPosition }

def mismatch {α : Type} (m : Mismatch) : Scan α :=
  throw (Error.ofMismatch m)

def placed {α : Type} (act : Scan α) : Scan α :=
  tryCatch act fun e => do
    match e.position with
    | none => throw { e with position := some (← get).position }
    | some _ => throw e

def lift {α : Type} (f : Cursor → Except Error (α × Cursor)) : Scan α := do
  match f (← get) with
  | .ok (a, c) => set c; return a
  | .error e => throw e

/-- Runs `body`, then `close` whether or not `body` failed; the first refusal wins. -/
def closing {α : Type} (body : Scan α) (close : Scan Unit) : Scan α := do
  let r ← tryCatch (Except.ok <$> body) fun e => pure (Except.error e)
  let c ← tryCatch (Except.ok <$> close) fun e => pure (Except.error e)
  match r, c with
  | .ok v, .ok () => pure v
  | .error e, _ => throw e
  | .ok _, .error e => throw e

def word : List UInt8 → Scan Unit
  | [] => pure ()
  | b :: rest => do
    match ← next? with
    | none => fail .eofWhileParsingValue
    | some x => if x == b then word rest else fail .expectedSomeIdent

def runOn {α : Type} (act : Scan α) (bytes : List UInt8) : Except Error α :=
  (StateT.run (ExceptT.run act) (Cursor.ofBytes bytes)).1

end Scan

end VoiceSession.Json
