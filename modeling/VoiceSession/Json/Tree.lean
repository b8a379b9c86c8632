import VoiceSession.Json.Text
import VoiceSession.Json.Numeral
import VoiceSession.Json.Value
/-!
# Reading whole JSON values

`Scan.value budget` reads any JSON value into a `Value`, keeping object members in the order
read, duplicates included. Arrays and objects may nest only as deep as the budget allows: each
one opened uses a unit of it, and opening one when a single unit is left is refused as
`recursionLimitExceeded`, placed at its bracket.
-/

namespace VoiceSession.Json

namespace Scan

def stringLiteral : Scan String := do
  eat
  lift Cursor.string

/-- Whether another item follows in an array whose `[` was read. -/
def nextItem (first : Bool) : Scan Bool := do
  match ← blank with
  | none => failAhead .eofWhileParsingList
  | some 93 => return false
  | some b =>
    if first then return true
    else if b == 44 then
      eat
      match ← blank with
      | some 93 => failAhead .trailingComma
      | some _ => return true
      | none => failAhead .eofWhileParsingValue
    else failAhead .expectedListCommaOrEnd

/-- The next key in an object whose `{` was read, if there is one. -/
def nextKey (first : Bool) : Scan (Option String) := do
  let peek ← match ← blank with
    | some 125 => return none
    | some 44 =>
      if first then failAhead .keyMustBeAString
      else
        eat
        blank
    | some b => if first then pure (some b) else failAhead .expectedObjectCommaOrEnd
    | none => failAhead .eofWhileParsingObject
  match peek with
  | some 34 => return some (← stringLiteral)
  | some 125 => failAhead .trailingComma
  | some _ => failAhead .keyMustBeAString
  | none => failAhead .eofWhileParsingValue

def colon : Scan Unit := do
  match ← blank with
  | some 58 => eat
  | some _ => failAhead .expectedColon
  | none => failAhead .eofWhileParsingObject

/-- Closes an array whose items were read. -/
def closeArray : Scan Unit := do
  match ← blank with
  | some 93 => eat
  | some 44 =>
    eat
    match ← blank with
    | some 93 => failAhead .trailingComma
    | _ => failAhead .trailingCharacters
  | some _ => failAhead .trailingCharacters
  | none => failAhead .eofWhileParsingList

def closeObject : Scan Unit := do
  match ← blank with
  | some 125 => eat
  | some 44 => failAhead .trailingComma
  | some _ => failAhead .trailingCharacters
  | none => failAhead .eofWhileParsingObject

def open_ (budget : Nat) : Scan Unit := do
  if budget ≤ 1 then failAhead .recursionLimitExceeded
  else eat

def numberLiteral : Scan Number := do
  match ← peek with
  | some 45 => eat; lift (Cursor.number false)
  | _ => lift (Cursor.number true)

mutual
/-- Reads any value, with `budget` units for nesting. -/
def value (budget : Nat) : Scan Value := do
  match ← blank with
  | none => failAhead .eofWhileParsingValue
  | some 110 => eat; word [117, 108, 108]; return .null
  | some 116 => eat; word [114, 117, 101]; return .bool true
  | some 102 => eat; word [97, 108, 115, 101]; return .bool false
  | some 34 => return .string (← stringLiteral)
  | some 91 =>
    match budget with
    | b + 2 =>
      eat
      let fuel := (← get).rest.length + 1
      let xs ← closing (items (b + 1) fuel true []) closeArray
      return .array xs
    | _ => failAhead .recursionLimitExceeded
  | some 123 =>
    match budget with
    | b + 2 =>
      eat
      let fuel := (← get).rest.length + 1
      let ms ← closing (members (b + 1) fuel true []) closeObject
      return .object ms
    | _ => failAhead .recursionLimitExceeded
  | some b =>
    if b == 45 || isDigit b then return .number (← numberLiteral)
    else failAhead .expectedSomeValue
termination_by (budget, 0, 0)

/-- Reads the items of an array, each with `budget` units. -/
def items (budget : Nat) (fuel : Nat) (first : Bool) (acc : List Value) : Scan (List Value) := do
  match fuel with
  | 0 => fail .eofWhileParsingList
  | fuel + 1 =>
    if ← nextItem first then
      let v ← value budget
      items budget fuel false (v :: acc)
    else return acc.reverse
termination_by (budget, 1, fuel)

/-- Reads the members of an object, each value with `budget` units. -/
def members (budget : Nat) (fuel : Nat) (first : Bool) (acc : Members) : Scan Members := do
  match fuel with
  | 0 => fail .eofWhileParsingObject
  | fuel + 1 =>
    match ← nextKey first with
    | some k =>
      colon
      let v ← value budget
      members budget fuel false ((k, v) :: acc)
    | none => return acc.reverse
termination_by (budget, 1, fuel)
end

inductive Frame where
  | array
  | object

/-- Passes over the rest of a value's enclosing containers, `frames` innermost first, after
a value was passed (`afterValue`) or a container opened. -/
def skipRest (fuel : Nat) (frames : List Frame) (afterValue : Bool) : Scan Unit := do
  match fuel with
  | 0 => fail .eofWhileParsingValue
  | fuel + 1 =>
    match frames with
    | [] => pure ()
    | frame :: outer =>
      let b ← blank
      let closes := match frame, b with
        | .array, some 93 => true
        | .object, some 125 => true
        | _, _ => false
      if b == some 44 && afterValue then
        eat
        skipItem fuel frames
      else if closes then
        eat
        skipRest fuel outer true
      else
        match b with
        | none =>
          match frame with
          | .array => failAhead .eofWhileParsingList
          | .object => failAhead .eofWhileParsingObject
        | some _ =>
          if afterValue then
            match frame with
            | .array => failAhead .expectedListCommaOrEnd
            | .object => failAhead .expectedObjectCommaOrEnd
          else skipItem fuel frames
where
  skipItem (fuel : Nat) (frames : List Frame) : Scan Unit := do
    match fuel with
    | 0 => fail .eofWhileParsingValue
    | fuel + 1 =>
      match frames with
      | .object :: _ =>
        match ← blank with
        | some 34 => eat; lift Cursor.skipString
        | some _ => failAhead .keyMustBeAString
        | none => failAhead .eofWhileParsingObject
        match ← blank with
        | some 58 => eat
        | some _ => failAhead .expectedColon
        | none => failAhead .eofWhileParsingObject
        skipOne fuel frames
      | _ => skipOne fuel frames
  skipOne (fuel : Nat) (frames : List Frame) : Scan Unit := do
    match fuel with
    | 0 => fail .eofWhileParsingValue
    | fuel + 1 =>
      match ← blank with
      | none => failAhead .eofWhileParsingValue
      | some 110 => eat; word [117, 108, 108]; skipRest fuel frames true
      | some 116 => eat; word [114, 117, 101]; skipRest fuel frames true
      | some 102 => eat; word [97, 108, 115, 101]; skipRest fuel frames true
      | some 34 => eat; lift Cursor.skipString; skipRest fuel frames true
      | some 91 => eat; skipRest fuel (.array :: frames) false
      | some 123 => eat; skipRest fuel (.object :: frames) false
      | some 45 => eat; lift Cursor.skipNumber; skipRest fuel frames true
      | some b =>
        if isDigit b then do lift Cursor.skipNumber; skipRest fuel frames true
        else failAhead .expectedSomeValue

def skipValue : Scan Unit := do
  let fuel := 3 * (← get).rest.length + 3
  skipRest.skipOne fuel []

end Scan

end VoiceSession.Json

namespace VoiceSession.Json

/-- Reads a whole JSON text as a stored value: nesting limited to 127 levels, nothing but
blanks after it. -/
def Value.read (bytes : List UInt8) : Except Error Value :=
  Scan.runOn (do
    let v ← Scan.value 128
    match ← Scan.blank with
    | none => pure v.canonical
    | some _ => Scan.failAhead .trailingCharacters) bytes

end VoiceSession.Json
