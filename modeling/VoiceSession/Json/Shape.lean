import VoiceSession.Json.Tree
/-!
# Reading typed data straight from JSON text

A value of an expected kind is read while the text is read, so a value of the wrong kind is
refused where it stands: `invalid type: <found>, expected <asked>`, placed where reading what was
found ended.
-/

namespace VoiceSession.Json

namespace Scan

def Number.unexpected : Number → Unexpected
  | .unsigned n => .unsigned n.toNat
  | .negative n => .signed n.toInt
  | .double bits => .double bits

/-- Refuses the value under the cursor as not being `expected`, after reading it when it is a
literal; arrays and objects are refused at their bracket. -/
def wrongKind {α : Type} (expected : String) : Scan α := do
  let found : Unexpected ← match ← blank with
    | none => failAhead .eofWhileParsingValue
    | some 110 => do eat; word [117, 108, 108]; pure .null
    | some 116 => do eat; word [114, 117, 101]; pure (.bool true)
    | some 102 => do eat; word [97, 108, 115, 101]; pure (.bool false)
    | some 34 => do pure (.str (← stringLiteral))
    | some 91 => pure .seq
    | some 123 => pure .map
    | some b =>
      if b == 45 || isDigit b then do pure (Number.unexpected (← numberLiteral))
      else failAhead .expectedSomeValue
  placed (mismatch (.invalidType found expected))

def string : Scan String := placed do
  match ← blank with
  | some 34 => stringLiteral
  | none => failAhead .eofWhileParsingValue
  | some _ => wrongKind "a string"

def bool : Scan Bool := placed do
  match ← blank with
  | some 116 => eat; word [114, 117, 101]; return true
  | some 102 => eat; word [97, 108, 115, 101]; return false
  | none => failAhead .eofWhileParsingValue
  | some _ => wrongKind "a boolean"

def option {α : Type} (act : Scan α) : Scan (Option α) := do
  match ← blank with
  | some 110 => eat; word [117, 108, 108]; return none
  | _ => some <$> act

/-- A record read from an object (`ofMap`) or an array (`ofSeq`), with `budget` units of
nesting left; both readers get the budget left inside. -/
def record {α : Type} (budget : Nat) (expected : String) (ofMap : Nat → Scan α)
    (ofSeq : Nat → Scan α) : Scan α := placed do
  match ← blank with
  | none => failAhead .eofWhileParsingValue
  | some 91 => do open_ budget; closing (ofSeq (budget - 1)) closeArray
  | some 123 => do open_ budget; closing (ofMap (budget - 1)) closeObject
  | some _ => wrongKind expected

/-- An array read item by item. -/
def list {α : Type} (budget : Nat) (item : Nat → Scan α) : Scan (List α) := placed do
  match ← blank with
  | none => failAhead .eofWhileParsingValue
  | some 91 => do
    open_ budget
    let fuel := (← get).rest.length + 1
    let rec go : Nat → Bool → List α → Scan (List α)
      | 0, _, acc => pure acc.reverse
      | fuel + 1, first, acc => do
        if ← nextItem first then go fuel false ((← item (budget - 1)) :: acc)
        else pure acc.reverse
    closing (go fuel true []) closeArray
  | some _ => wrongKind "a sequence"

/-- The members of an object whose `{` was read, one key at a time: `step` reads the value of a
key (the colon already read) into the state; unknown keys are passed over by `step` itself. -/
def fields {σ : Type} (step : σ → String → Scan σ) (init : σ) : Scan σ := do
  let fuel := (← get).rest.length + 1
  let rec go : Nat → Bool → σ → Scan σ
    | 0, _, s => pure s
    | fuel + 1, first, s => do
      match ← nextKey first with
      | none => pure s
      | some k => go fuel false (← step s k)
  go fuel true init

def fill {α : Type} (name : String) (slot : Option α) (act : Scan α) : Scan (Option α) := do
  match slot with
  | some _ => mismatch (.duplicateField name)
  | none => do colon; return some (← act)

def skipField : Scan Unit := do
  colon
  skipValue

def required {α : Type} (name : String) : Option α → Scan α
  | some a => pure a
  | none => mismatch (.missingField name)

def finish : Scan Unit := do
  match ← blank with
  | none => pure ()
  | some _ => failAhead .trailingCharacters

end Scan

end VoiceSession.Json
