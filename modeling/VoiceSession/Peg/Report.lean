import VoiceSession.Peg.Run
/-!
# Reporting a failed parse

A failure is reported as a small picture of the input line where parsing got furthest:
-/

namespace VoiceSession.Peg

def lineCol : List Char → Nat × Nat → Nat × Nat
  | '\r' :: '\n' :: rest, (l, _) => lineCol rest (l + 1, 1)
  | '\n' :: rest, (l, _) => lineCol rest (l + 1, 1)
  | _ :: rest, (l, c) => lineCol rest (l, c + 1)
  | [], lc => lc

/-- The line holding a position, its line break included. -/
def lineAt (input : Array Char) (pos : Nat) : List Char :=
  let cs := input.toList
  let before := (cs.take pos).reverse.takeWhile (· != '\n')
  let start := pos - before.length
  let after := cs.drop pos
  let stop := match after.idxOf? '\n' with
    | some i => pos + i + 1
    | none => cs.length
  (cs.take stop).drop start

def enumerate (names : List String) : String :=
  match names with
  | [a] => a
  | [a, b] => a ++ " or " ++ b
  | _ => ", ".intercalate names.dropLast ++ ", or " ++ names.getLastD ""

namespace Failure

variable {ρ : Type}

/-- The message of a failure. -/
def message (f : Failure ρ) (g : Grammar ρ) : String :=
  let ex := f.expected.map g.name
  let unex := f.unexpected.map g.name
  match unex.isEmpty, ex.isEmpty with
  | false, false => "unexpected " ++ enumerate unex ++ "; expected " ++ enumerate ex
  | false, true => "unexpected " ++ enumerate unex
  | true, false => "expected " ++ enumerate ex
  | true, true => "unknown parsing error"

/-- The picture of a failure in its input. -/
def report (f : Failure ρ) (g : Grammar ρ) (input : Array Char) : String :=
  let (line, col) := lineCol (input.toList.take f.pos) (1, 1)
  let raw := lineAt input f.pos
  let atBreak := input[f.pos]? == some '\n' || input[f.pos]? == some '\r'
  let shown : List Char :=
    if atBreak then raw.map fun c => if c == '\n' then '␊' else if c == '\r' then '␍' else c
    else raw.filter fun c => c != '\n' && c != '\r'
  let spacing := String.ofList (List.replicate (toString line).length ' ')
  let underline := String.ofList ((shown.take (col - 1)).map fun c => if c == '\t' then '\t' else ' ')
    ++ "^---"
  spacing ++ "--> " ++ toString line ++ ":" ++ toString col ++ "\n" ++
    spacing ++ " |\n" ++
    toString line ++ " | " ++ String.ofList shown ++ "\n" ++
    spacing ++ " | " ++ underline ++ "\n" ++
    spacing ++ " |\n" ++
    spacing ++ " = " ++ f.message g

end Failure

end VoiceSession.Peg
