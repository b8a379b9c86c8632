import VoiceSession.Settings.Basic
/-!
# Loading the settings

A configuration library (`ConfigLibrary`) builds one configuration from the file and the
environment and reads values; what is decided here is the schema. A group is read from a table
by field name or from an array by position, and what is missing keeps its default.
-/

namespace VoiceSession.Settings

/-- A file in the directory settings are read from. -/
structure SettingsFile where
  name : String
  text : String
  deriving DecidableEq, Repr

/-- What the settings are loaded from: the name the file is looked up by, the files of the
working directory, and the environment variables. -/
structure Sources where
  name : String
  files : List SettingsFile := []
  environment : List (String × String) := []

/-- A configuration value as a group sees it. -/
inductive Shape (V : Type) where
  | table (members : List (String × V))
  | array (items : List V)
  | other

/-- The configuration library: it builds a configuration from the file named by the sources
(when there is one) overlaid by the variables prefixed `VOICE_AGENT` with `__` between the
parts of a key, and it reads values and says what went wrong. -/
structure ConfigLibrary where
  Value : Type
  Error : Type
  /-- The file named by the sources read in its format, if there is such a file. -/
  readFile : Sources → Except Error (Option Value)
  /-- A variable's text read as the most specific kind of value it spells. -/
  parse : String → Value
  build : Sources → Except Error Value
  shape : Value → Shape Value
  /-- A value that is not a group where the named group was wanted. -/
  notAGroup : Value → String → Error
  /-- The error with the key of the enclosing member, or the position of the enclosing item,
  in front of its key. -/
  underKey : String → Error → Error
  underIndex : Nat → Error → Error
  text : Value → Except Error String
  flag : Value → Except Error Bool
  port : Value → Except Error UInt16
  describe : Error → String

/-- Why settings could not be loaded: the library could not build the configuration from the
sources looked up by `path`, or the configuration does not fit the settings. -/
inductive LoadError (ε : Type) where
  | build (path : String) (cause : ε)
  | deserialize (cause : ε)

def LoadError.message {ε : Type} (describe : ε → String) : LoadError ε → String
  | .build path cause => "Failed to read configuration from " ++ path ++ ": " ++ describe cause
  | .deserialize cause => describe cause

section Schema

variable (lib : ConfigLibrary)

/-- A field of a group: its name and how a value is stored into the group. -/
structure Field (α : Type) where
  name : String
  store : lib.Value → α → Except lib.Error α

/-- Stores a member into the field of its name; a member that names no field is passed over. -/
def storeMember {α : Type} (fields : List (Field lib α)) (acc : α) (m : String × lib.Value) :
    Except lib.Error α :=
  match fields.find? (·.name == m.1) with
  | some f => (f.store m.2 acc).mapError (lib.underKey m.1)
  | none => .ok acc

/-- Reads a group from a table, field by member name, or from an array, field by position;
missing fields keep their values in `init`. -/
def readGroup {α : Type} (group : String) (fields : List (Field lib α)) (init : α) (v : lib.Value) :
    Except lib.Error α :=
  match lib.shape v with
  | .table ms => ms.foldlM (storeMember lib fields) init
  | .array items =>
    ((items.zip fields).zipIdx).foldlM (fun acc ((v, f), i) =>
      (f.store v acc).mapError (lib.underIndex i)) init
  | .other => .error (lib.notAGroup v group)

def controllerFields : List (Field lib ControllerSettings) :=
  [⟨"connect_url", fun v s => do return { s with connectUrl := ← lib.text v }⟩,
   ⟨"enable_mic", fun v s => do return { s with enableMic := ← lib.flag v }⟩,
   ⟨"enable_cam", fun v s => do return { s with enableCam := ← lib.flag v }⟩]

def httpFields : List (Field lib HttpSettings) :=
  [⟨"bind", fun v s => do return { s with bind := ← lib.text v }⟩,
   ⟨"port", fun v s => do return { s with port := ← lib.port v }⟩]

def loggingFields : List (Field lib LoggingSettings) :=
  [⟨"filter", fun v s => do return { s with filter := ← lib.text v }⟩,
   ⟨"with_target", fun v s => do return { s with withTarget := ← lib.flag v }⟩]

def settingsFields : List (Field lib Settings) :=
  [⟨"controller", fun v s => do
      return { s with controller := ← readGroup lib "ControllerConfig" (controllerFields lib) {} v }⟩,
   ⟨"http", fun v s => do
      return { s with http := ← readGroup lib "HttpConfig" (httpFields lib) {} v }⟩,
   ⟨"logging", fun v s => do
      return { s with logging := ← readGroup lib "LoggingConfig" (loggingFields lib) {} v }⟩]

def load (s : Sources) : Except (LoadError lib.Error) Settings := do
  let root ← (lib.build s).mapError (.build s.name)
  (readGroup lib "Config" (settingsFields lib) {} root).mapError .deserialize

end Schema

end VoiceSession.Settings
