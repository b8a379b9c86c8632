import VoiceSession.Settings.Load
import VoiceSession.Settings.Source
/-!
# A layered configuration library

`layered` gathers the sources into one tree (the file first, then the environment, each key set
where its path points) and reads values leniently:
-/

namespace VoiceSession.Settings

open Decimal

inductive Fault where
  | wrongKind (found : Found) (wanted : String) (key : Option String) (origin : Option String)
  | notAGroup (found : String) (group : String)
  | unreadable (cause : String) (file : String)

namespace Fault

/-- The error with the key of the enclosing member in front of its key. -/
def underKey (k : String) : Fault → Fault
  | .wrongKind f w key o =>
    let joined := match key with
      | none => k
      | some inner => if inner.isEmpty || inner.startsWith "[" then k ++ inner else k ++ "." ++ inner
    .wrongKind f w (some joined) o
  | e => e

def underIndex (i : Nat) (e : Fault) : Fault :=
  e.underKey ("[" ++ toString i ++ "]")

def describe : Fault → String
  | .wrongKind f w key o =>
    "invalid type: " ++ f.describe ++ ", expected " ++ w ++
      (match key with
        | some k => " for key `" ++ k ++ "`"
        | none => "") ++
      (match o with
        | some o => " in " ++ o
        | none => "")
  | .notAGroup found group => "invalid type: " ++ found ++ ", expected struct " ++ group
  | .unreadable cause file => cause ++ " in " ++ file

end Fault

/-! ## Fields -/

def Datum.wrong {α : Type} (d : Datum) (wanted : String) : Except Fault α :=
  .error (.wrongKind d.found wanted none d.origin)

def Datum.toText (d : Datum) : Except Fault String :=
  match d with
  | .string _ s => .ok s
  | .boolean _ b => .ok (toString b)
  | .integer _ i => .ok (toString i)
  | .float _ f => .ok (Layout.plain.writeAll f)
  | _ => d.wrong "a string"

def Datum.toFlag (d : Datum) : Except Fault Bool :=
  match d with
  | .boolean _ b => .ok b
  | .integer _ i => .ok (i != 0)
  | .float _ f => .ok (f != 0.0)
  | .string o s =>
    let t := Text.Case.lower s
    if t == "1" || t == "true" || t == "on" || t == "yes" then .ok true
    else if t == "0" || t == "false" || t == "off" || t == "no" then .ok false
    else .error (.wrongKind (.string t) "a boolean" none o)
  | _ => d.wrong "a boolean"

/-- A double rounded half away from zero, as an unsigned 64-bit word: negative values and
`NaN` give zero, values past the range the largest word. -/
def roundToWord (f : Float) : Nat :=
  if f.isNaN || f ≤ 0.0 then 0
  else if f ≥ 18446744073709551616.0 then Nat.pow 2 64 - 1
  else f.round.toUInt64.toNat

/-- Reads an unsigned 64-bit number. -/
def Datum.toWord (d : Datum) : Except Fault Nat :=
  match d with
  | .integer o i =>
    if 0 ≤ i then .ok i.toNat
    else .error (.wrongKind (.integer i) "an unsigned 64 bit or less integer" none o)
  | .boolean _ b => .ok (if b then 1 else 0)
  | .float _ f => .ok (roundToWord f)
  | .string o s =>
    let t := Text.Case.lower s
    if t == "true" || t == "on" || t == "yes" then .ok 1
    else if t == "false" || t == "off" || t == "no" then .ok 0
    else
      let digits := match s.toList with
        | '+' :: ds => ds
        | ds => ds
      if !digits.isEmpty && digits.all Char.isDigit && digitsOf digits < Nat.pow 2 64 then .ok (digitsOf digits)
      else .error (.wrongKind (.string s) "an integer" none o)
  | _ => d.wrong "an integer"

def Datum.toPort (d : Datum) : Except Fault UInt16 :=
  d.toWord.map fun n => (n % Nat.pow 2 16).toUInt16

/-- How a value that is not a group is named in an "invalid type" message. -/
def Datum.shown : Datum → String
  | .nil _ => "unit value"
  | .boolean _ b => "boolean `" ++ toString b ++ "`"
  | .integer _ i => "integer `" ++ toString i ++ "`"
  | .float _ f => "floating point `" ++ Layout.pointed.writeAll f ++ "`"
  | .string _ s => "string " ++ Text.Escape.quoted s
  | .array _ _ => "sequence"
  | .table _ _ => "map"

def Datum.shape : Datum → Shape Datum
  | .table _ ms => .table ms
  | .array _ items => .array items
  | _ => .other

/-! ## Building -/

def gather (tree : Datum) (entries : List (String × Datum)) : Datum :=
  entries.foldl (fun t (k, v) => (Path.ofKey k).set v t) tree

/-- The entries the file hands over: none without a file, else those its format reads. -/
def Sources.fileEntries (s : Sources) : Except Fault (List (String × Datum)) :=
  match locate s.name s.files with
  | none => pure []
  | some (file, format) =>
    match format.read file.name file.text with
    | .ok entries => pure entries
    | .error cause => throw (.unreadable cause file.name)

def Sources.fileTree (s : Sources) : Except Fault (Option Datum) := do
  let entries ← s.fileEntries
  return (locate s.name s.files).map fun _ => gather Datum.empty entries

def Sources.tree (s : Sources) : Except Fault Datum := do
  return gather (gather Datum.empty (← s.fileEntries)) (fromEnvironment s.environment)

def layered : ConfigLibrary where
  Value := Datum
  Error := Fault
  readFile := Sources.fileTree
  parse := readVariable
  build := Sources.tree
  shape := Datum.shape
  notAGroup d group := .notAGroup d.shown group
  underKey := Fault.underKey
  underIndex := Fault.underIndex
  text := Datum.toText
  flag := Datum.toFlag
  port := Datum.toPort
  describe := Fault.describe

end VoiceSession.Settings
