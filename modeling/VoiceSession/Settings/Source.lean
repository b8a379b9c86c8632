import VoiceSession.Settings.Tree
import VoiceSession.Settings.Load
import VoiceSession.Toml.Document
import VoiceSession.Json.Tree
import VoiceSession.Decimal.Read
import VoiceSession.Decimal.Layout
import VoiceSession.Text.Escape
import VoiceSession.Text.Case
import VoiceSession.Ini
import VoiceSession.Yaml.Document
import VoiceSession.Ron
import VoiceSession.Json5.Value
/-!
# Sources of settings

Settings come from a file and from environment variables, in that order; a later source wins.
-/

namespace VoiceSession.Settings

open Decimal

/-- A kind of value found in a settings file or tree, as messages about the settings name it. -/
inductive Found where
  | unit
  | boolean (b : Bool)
  | integer (i : Int)
  | float (f : Float)
  | string (s : String)
  | sequence
  | map

/-- How the settings tree names a value of the wrong kind. -/
def Found.describe : Found → String
  | .unit => "unit value"
  | .boolean b => "boolean `" ++ toString b ++ "`"
  | .integer i => "integer 64 bit `" ++ toString i ++ "`"
  | .float f => "floating point `" ++ Layout.plain.writeAll f ++ "`"
  | .string s => "string " ++ Text.Escape.quoted s
  | .sequence => "sequence"
  | .map => "map"

/-- What kind of value a node holds. -/
def Datum.found : Datum → Found
  | .nil _ => .unit
  | .boolean _ b => .boolean b
  | .integer _ i => .integer i
  | .float _ f => .float f
  | .string _ s => .string s
  | .array _ _ => .sequence
  | .table _ _ => .map

/-! ## Files -/

/-- The formats a settings file may be written in. -/
inductive Format where
  | toml
  | json
  | yaml
  | ini
  | ron
  | json5
  deriving DecidableEq, Repr

namespace Format

def all : List Format := [.toml, .json, .yaml, .ini, .ron, .json5]

/-- The extensions a format is known by. -/
def extensions : Format → List String
  | .toml => ["toml"]
  | .json => ["json"]
  | .yaml => ["yaml", "yml"]
  | .ini => ["ini"]
  | .ron => ["ron"]
  | .json5 => ["json5"]

def ofExtension? (ext : String) : Option Format :=
  all.find? fun f => f.extensions.contains ext

end Format

/-- The extension of a file name: what follows its last dot, unless that dot starts the name. A
name ending in a dot has the empty extension. -/
def extensionOf (name : String) : Option String :=
  match (name.splitOn ".").reverse with
  | ext :: rest@(_ :: _) => if (".".intercalate rest.reverse).isEmpty then none else some ext
  | _ => none

/-- The file a name refers to, with its format: the file of that name if there is one (and
then only if its extension stands for a format), else the first file named by the name followed
by a dot and a known extension. -/
def locate (name : String) (files : List SettingsFile) : Option (SettingsFile × Format) :=
  let named (n : String) := files.find? (·.name == n)
  match named name with
  | some file => ((extensionOf name).bind Format.ofExtension?).map fun f => (file, f)
  | none =>
    if name.isEmpty then none
    else
      let tries := Format.all.flatMap fun f => f.extensions.map fun ext => (name ++ "." ++ ext, f)
      tries.findSome? fun (n, f) => (named n).map fun file => (file, f)

/-! ## Reading a file into settings -/

mutual

/-- A TOML value as a settings node from `uri`; tables keep their keys sorted. -/
def ofToml (uri : String) : Toml.Doc → Datum
  | .string s => .string (some uri) s
  | .integer i => .integer (some uri) i
  | .float f => .float (some uri) f
  | .boolean b => .boolean (some uri) b
  | .datetime t => .string (some uri) t
  | .array items => .array (some uri) (ofTomlItems uri items)
  | .table ms => .table (some uri) ((ofTomlMembers uri ms).mergeSort fun a b => decide (a.1 ≤ b.1))

def ofTomlItems (uri : String) : List Toml.Doc → List Datum
  | [] => []
  | d :: rest => ofToml uri d :: ofTomlItems uri rest

def ofTomlMembers (uri : String) : List (String × Toml.Doc) → List (String × Datum)
  | [] => []
  | (k, d) :: rest => (k, ofToml uri d) :: ofTomlMembers uri rest

end

def ofJsonNumber (uri : String) : Json.Number → Datum
  | .unsigned n => if n.toNat < Nat.pow 2 63 then .integer (some uri) n.toNat else .float (some uri) n.toFloat
  | .negative n => .integer (some uri) n.toInt
  | .double bits => .float (some uri) (Float.ofBits bits)

mutual

/-- A JSON value as a settings node from `uri`. -/
def ofJson (uri : String) : Json.Value → Datum
  | .null => .nil (some uri)
  | .bool b => .boolean (some uri) b
  | .number n => ofJsonNumber uri n
  | .string s => .string (some uri) s
  | .array items => .array (some uri) (ofJsonItems uri items)
  | .object ms => .table (some uri) (ofJsonMembers uri ms)

def ofJsonItems (uri : String) : List Json.Value → List Datum
  | [] => []
  | v :: rest => ofJson uri v :: ofJsonItems uri rest

def ofJsonMembers (uri : String) : List (String × Json.Value) → List (String × Datum)
  | [] => []
  | (k, v) :: rest => (k, ofJson uri v) :: ofJsonMembers uri rest

end

def rootMembers : Datum → List (String × Datum)
  | .table _ ms => ms
  | _ => []

def tableMembers (uri : String) : Datum → Except String (List (String × Datum))
  | .table _ ms => .ok ms
  | d => .error ("invalid type: " ++ d.found.describe ++ ", expected a map in " ++ uri)

mutual

/-- A YAML node as a settings node from `uri`. A real number must read as a double; of a
mapping only the entries with a string key count, and the others are passed over unread. -/
def ofYaml (uri : String) : Yaml.Node → Except String Datum
  | .real text =>
    match readFloat? text with
    | some f => .ok (.float (some uri) f)
    | none => .error ("Parsing " ++ text ++ " as floating point number failed")
  | .integer i => .ok (.integer (some uri) i)
  | .string s => .ok (.string (some uri) s)
  | .boolean b => .ok (.boolean (some uri) b)
  | .array items => do return .array (some uri) (← ofYamlItems uri items)
  | .hash entries => do return .table (some uri) (← ofYamlEntries uri entries)
  | .null | .badValue => .ok (.nil (some uri))

def ofYamlItems (uri : String) : List Yaml.Node → Except String (List Datum)
  | [] => .ok []
  | n :: rest => do return (← ofYaml uri n) :: (← ofYamlItems uri rest)

/-- `ofYaml` on each entry with a string key. -/
def ofYamlEntries (uri : String) : List (Yaml.Node × Yaml.Node) → Except String (List (String × Datum))
  | [] => .ok []
  | (k, v) :: rest =>
    match k with
    | .string s => do
      let d ← ofYaml uri v
      return (s, d) :: (← ofYamlEntries uri rest)
    | _ => ofYamlEntries uri rest

end

/-- A RON map key as a settings key: a string or a character, else the error naming what it is. -/
def ronKey : Ron.Value → Except String String
  | .string s => .ok s
  | .char c => .ok (String.singleton c)
  | k =>
    let found := match k with
      | .bool b => "boolean `" ++ toString b ++ "`"
      | .integer i => "integer `" ++ toString i ++ "`"
      | .float f => "floating point `" ++ Layout.pointed.writeAll f ++ "`"
      | .option _ => "Option value"
      | .seq _ => "sequence"
      | .map _ => "map"
      | _ => "unit value"
    .error ("invalid type: " ++ found ++ ", expected a string")

mutual

/-- A RON value as a settings node from `uri`: `None` and the unit are null, `Some` stands for
what it holds, a character is a string, and map keys must be strings or characters. -/
def ofRon (uri : String) : Ron.Value → Except String Datum
  | .option none | .unit => .ok (.nil (some uri))
  | .option (some v) => ofRon uri v
  | .bool b => .ok (.boolean (some uri) b)
  | .integer i => .ok (.integer (some uri) i)
  | .float f => .ok (.float (some uri) f)
  | .char c => .ok (.string (some uri) (String.singleton c))
  | .string s => .ok (.string (some uri) s)
  | .seq items => do return .array (some uri) (← ofRonItems uri items)
  | .map entries => do return .table (some uri) (← ofRonEntries uri entries)

def ofRonItems (uri : String) : List Ron.Value → Except String (List Datum)
  | [] => .ok []
  | v :: rest => do return (← ofRon uri v) :: (← ofRonItems uri rest)

def ofRonEntries (uri : String) : List (Ron.Value × Ron.Value) → Except String (List (String × Datum))
  | [] => .ok []
  | (k, v) :: rest => do
    let key ← ronKey k
    let d ← ofRon uri v
    return (key, d) :: (← ofRonEntries uri rest)

end

mutual

/-- A JSON5 value as a settings node from `uri`. -/
def ofJson5 (uri : String) : Json5.Value → Datum
  | .null => .nil (some uri)
  | .bool b => .boolean (some uri) b
  | .integer i => .integer (some uri) i
  | .float f => .float (some uri) f
  | .string s => .string (some uri) s
  | .array items => .array (some uri) (ofJson5Items uri items)
  | .object ms => .table (some uri) (ofJson5Members uri ms)

def ofJson5Items (uri : String) : List Json5.Value → List Datum
  | [] => []
  | v :: rest => ofJson5 uri v :: ofJson5Items uri rest

def ofJson5Members (uri : String) : List (String × Json5.Value) → List (String × Datum)
  | [] => []
  | (k, v) :: rest => (k, ofJson5 uri v) :: ofJson5Members uri rest

end

def lastPerKey (ms : List (String × Datum)) : List (String × Datum) :=
  ms.foldl (fun acc (k, v) => putMember k v acc) []

/-- The settings of an INI document: the general properties, then one table per section; every
value is text. Of two sections of one name the later one counts. -/
def ofIni (uri : String) (sections : List Ini.Section) : List (String × Datum) :=
  let text (ps : List (String × String)) := lastPerKey (ps.map fun (k, v) => (k, .string (some uri) v))
  lastPerKey (sections.flatMap fun s =>
    match s.name with
    | none => text s.properties
    | some n => [(n, .table (some uri) (text s.properties))])

/-- Reads a file's text in a format; an error is the cause's text. -/
def Format.read (f : Format) (uri text : String) : Except String (List (String × Datum)) :=
  match f with
  | .toml =>
    match Toml.Doc.read text with
    | .ok d => .ok (rootMembers (ofToml uri d))
    | .error e => .error (e.message text)
  | .json =>
    match Json.Value.read text.toUTF8.toList with
    | .ok v => .ok (rootMembers (ofJson uri v))
    | .error e => .error e.message
  | .ini =>
    match Ini.read text with
    | .ok sections => .ok (ofIni uri sections)
    | .error e => .error e.text
  | .yaml =>
    match Yaml.loadAll text with
    | .error e => .error e.text
    | .ok [] => .ok []
    | .ok [root] => do return rootMembers (← ofYaml uri root)
    | .ok docs => .error ("Got " ++ toString docs.length ++ " YAML documents, expected 1")
  | .ron =>
    match Ron.read text with
    | .error e => .error e.text
    | .ok v => do return rootMembers (← ofRon uri v)
  | .json5 =>
    match Json5.read text with
    | .error e => .error e
    | .ok v => tableMembers uri (ofJson5 uri v)

/-! ## The environment -/

def variableLead : String := "voice_agent__"

/-- A variable's value read as the most specific kind it spells. -/
def readVariable (value : String) : Datum :=
  let o := some "the environment"
  let lower := Text.Case.lower value
  if lower == "true" then .boolean o true
  else if lower == "false" then .boolean o false
  else match readInt? value with
    | some i => .integer o i
    | none =>
      match readFloat? value with
      | some f => .float o f
      | none => .string o value

/-- The settings the environment holds, by key, sorted by variable name. -/
def fromEnvironment (vars : List (String × String)) : List (String × Datum) :=
  let sorted := vars.mergeSort fun a b => decide (a.1 ≤ b.1)
  sorted.filterMap fun (name, value) =>
    let key := Text.Case.lower name
    if key.startsWith variableLead then
      some (((key.drop variableLead.length).toString.replace "__" "."), readVariable value)
    else none

end VoiceSession.Settings
