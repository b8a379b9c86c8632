/-!
# YAML tokens

The tokens of a YAML character stream, each with the mark where it starts. A mark counts
characters: its index from the start, its line from one and its column from zero. An error is
a message at a mark, written `<message> at line L column C` with the column counted from one.
-/

namespace VoiceSession.Yaml

structure Mark where
  index : Nat := 0
  line : Nat := 1
  col : Nat := 0
  deriving DecidableEq, Repr, Inhabited

structure Error where
  mark : Mark
  info : String
  deriving Repr

def Error.text (e : Error) : String :=
  e.info ++ " at line " ++ toString e.mark.line ++ " column " ++ toString (e.mark.col + 1)

/-- How a scalar was written. -/
inductive Style where
  | plain
  | singleQuoted
  | doubleQuoted
  | literal
  | folded
  deriving DecidableEq, Repr

/-- A token of the stream. -/
inductive Token where
  | streamStart
  | streamEnd
  | versionDirective (major minor : Nat)
  | tagDirective (handle expansion : String)
  | documentStart
  | documentEnd
  | blockSequenceStart
  | blockMappingStart
  | blockEnd
  | flowSequenceStart
  | flowSequenceEnd
  | flowMappingStart
  | flowMappingEnd
  | blockEntry
  | flowEntry
  | key
  | value
  | alias (name : String)
  | anchor (name : String)
  | tag (handle suffix : String)
  | scalar (style : Style) (text : String)
  deriving DecidableEq, Repr

def endChar : Char := Char.ofNat 0

def isEnd (c : Char) : Bool := c == endChar

def isBreak (c : Char) : Bool := c == '\n' || c == '\r'

def isBreakOrEnd (c : Char) : Bool := isBreak c || isEnd c

def isSpace (c : Char) : Bool := c == ' ' || c == '\t'

def isSpaceOrEnd (c : Char) : Bool := isSpace c || isBreakOrEnd c

def isDigit (c : Char) : Bool := '0' ≤ c && c ≤ '9'

def isWordChar (c : Char) : Bool :=
  ('0' ≤ c && c ≤ '9') || ('a' ≤ c && c ≤ 'z') || ('A' ≤ c && c ≤ 'Z') || c == '_' || c == '-'

def isHex (c : Char) : Bool :=
  ('0' ≤ c && c ≤ '9') || ('a' ≤ c && c ≤ 'f') || ('A' ≤ c && c ≤ 'F')

def hexValue (c : Char) : Nat :=
  if '0' ≤ c && c ≤ '9' then c.toNat - 48
  else if 'a' ≤ c && c ≤ 'f' then c.toNat - 87
  else c.toNat - 55

def isFlow (c : Char) : Bool :=
  c == ',' || c == '[' || c == ']' || c == Char.ofNat 0x7B || c == Char.ofNat 0x7D

end VoiceSession.Yaml
