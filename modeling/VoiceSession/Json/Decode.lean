import VoiceSession.Json.Error
import VoiceSession.Json.Value
/-!
# Typed data from JSON values

Decoding a `Value` into typed data. There are two sources, which differ only in wording and in
duplicates:
-/

namespace VoiceSession.Json

inductive Source where
  | stored
  | buffered
  deriving DecidableEq, Repr

def Source.leftover (src : Source) (length taken : Nat) : Mismatch :=
  match src with
  | .stored => .invalidLength length "fewer elements in array"
  | .buffered =>
    .invalidLength length (if taken = 1 then "1 element in sequence"
      else toString taken ++ " elements in sequence")

/-- How a mismatch names a value. -/
def Value.unexpected : Value → Unexpected
  | .null => .null
  | .bool b => .bool b
  | .number (.unsigned n) => .unsigned n.toNat
  | .number (.negative n) => .signed n.toInt
  | .number (.double bits) => .double bits
  | .string s => .str s
  | .array _ => .seq
  | .object _ => .map

abbrev Decoded := Except Error

namespace Decode

def wrongType {α : Type} (v : Value) (expected : String) : Decoded α :=
  .error (.ofMismatch (.invalidType v.unexpected expected))

def string (v : Value) : Decoded String :=
  match v with
  | .string s => .ok s
  | _ => wrongType v "a string"

def bool (v : Value) : Decoded Bool :=
  match v with
  | .bool b => .ok b
  | _ => wrongType v "a boolean"

def option {α : Type} (f : Value → Decoded α) (v : Value) : Decoded (Option α) :=
  match v with
  | .null => .ok none
  | _ => some <$> f v

def list {α : Type} (f : Value → Decoded α) (v : Value) : Decoded (List α) :=
  match v with
  | .array items => items.mapM f
  | _ => wrongType v "a sequence"

/-- A record from an object or an array: `ofMembers` reads an object's members, `ofItems` an
array's items, answering also how many items it took. -/
def record {α : Type} (src : Source) (expected : String) (ofMembers : Members → Decoded α)
    (ofItems : List Value → Decoded (α × Nat)) (v : Value) : Decoded α :=
  match v with
  | .object ms => ofMembers ms
  | .array items => do
    let (a, taken) ← ofItems items
    if taken < items.length then .error (.ofMismatch (src.leftover items.length taken))
    else pure a
  | _ => wrongType v expected

/-- A value with no payload from a name: a string naming one of `names`, or an object with a
single member whose key names it and whose value is `null`. -/
def unitVariant (names : List String) (v : Value) : Decoded String := do
  let (name, payload) ← match v with
    | .string s => pure (s, none)
    | .object [(k, x)] => pure (k, some x)
    | .object _ => .error (.ofMismatch (.invalidValue .map "map with a single key"))
    | _ => wrongType v "string or map"
  if names.contains name then
    match payload with
    | none | some .null => pure name
    | some x => wrongType x "unit"
  else .error (.ofMismatch (.unknownVariant name names))

end Decode

def Decode.fill {α : Type} (name : String) (slot : Option α) (value : Decoded α) :
    Decoded (Option α) :=
  match slot with
  | some _ => .error (.ofMismatch (.duplicateField name))
  | none => some <$> value

def Decode.required {α : Type} (name : String) : Option α → Decoded α
  | some a => .ok a
  | none => .error (.ofMismatch (.missingField name))

end VoiceSession.Json
