import VoiceSession.Json.Number
/-!
# JSON values

`Value` is a JSON document. Object members are a list of key and value in the order they were
read, duplicates included; that is what a buffered message holds. A value stored as data keeps
its members sorted by key with one member per key, the later of two duplicates winning:
`Value.canonical` turns the first form into the second, and `Members.insert` keeps it.
-/

namespace VoiceSession.Json

/-- A JSON document. -/
inductive Value where
  | null
  | bool (b : Bool)
  | number (n : Number)
  | string (s : String)
  | array (items : List Value)
  | object (members : List (String × Value))
  deriving Repr, Inhabited

abbrev Members := List (String × Value)

namespace Members

def insert (key : String) (v : Value) : Members → Members
  | [] => [(key, v)]
  | (k, w) :: rest =>
    if key < k then (key, v) :: (k, w) :: rest
    else if key = k then (key, v) :: rest
    else (k, w) :: insert key v rest

def sorted (ms : Members) : Members :=
  ms.foldl (fun acc (k, v) => insert k v acc) []

def get? (ms : Members) (key : String) : Option Value :=
  (ms.find? (·.1 == key)).map (·.2)

end Members

namespace Value

mutual
def canonical : Value → Value
  | .array items => .array (canonicalItems items)
  | .object members => .object (Members.sorted (canonicalMembers members))
  | v => v

def canonicalItems : List Value → List Value
  | [] => []
  | v :: rest => canonical v :: canonicalItems rest

def canonicalMembers : Members → Members
  | [] => []
  | (k, v) :: rest => (k, canonical v) :: canonicalMembers rest
end

def nat (n : Nat) : Value := .number (.unsigned n.toUInt64)

def field? (v : Value) (key : String) : Option Value :=
  match v with
  | .object ms => Members.get? ms key
  | _ => none

def ofOption (s : Option String) : Value :=
  match s with
  | some s => .string s
  | none => .null

end Value

end VoiceSession.Json
