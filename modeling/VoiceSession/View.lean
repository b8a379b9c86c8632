import VoiceSession.Connection
import VoiceSession.Log
import VoiceSession.Search
/-!
# What the user interface shows

`View` is what a front end displays of the session: the lifecycle state and offered actions, the
transport's phase, a status line, the log, the search result, and why the last session ended.
-/

namespace VoiceSession

open Json

/-- A session, by its number in order of creation. -/
structure SessionId where
  index : Nat
  deriving DecidableEq, Repr, Inhabited

def hexDigits : Nat → Nat → List Char
  | 0, _ => []
  | width + 1, n => hexDigits width (n / 16) ++ [Nat.digitChar (n % 16)]

/-- How an id is written: a hyphenated version-4 UUID whose random bits are the session's
number. -/
def SessionId.text (id : SessionId) : String :=
  "00000000-0000-4000-8000-" ++ String.ofList (hexDigits 12 id.index)

/-- Why the last session ended. -/
inductive SessionEnd where
  | requested
  | remote
  | connectFailed
  deriving DecidableEq, Repr

def SessionEnd.name : SessionEnd → String
  | .requested => "local"
  | .remote => "remote"
  | .connectFailed => "connect_failed"

/-- Everything the front end displays. -/
structure View where
  connection : ConnectionState := .idle
  session : Option SessionId := none
  transportState : Option TransportState := none
  status : String := "Disconnected"
  connectEnabled : Bool := true
  disconnectEnabled : Bool := false
  log : List LogEntry := []
  searchResult : Option SearchResult := none
  lastEnd : Option SessionEnd := none
  deriving DecidableEq, Repr

namespace View

def entries (v : View) (c : LogCategory) : List LogEntry :=
  v.log.filter (·.category == c)

/-- JSON form, the session given by its number. -/
def toJson (v : View) : Value :=
  .object [("connection", .string v.connection.name),
    ("session_id", match v.session with
      | some s => Value.nat s.index
      | none => .null),
    ("transport_state", match v.transportState with
      | some t => .string t.name
      | none => .null),
    ("status", .string v.status),
    ("connect_enabled", .bool v.connectEnabled),
    ("disconnect_enabled", .bool v.disconnectEnabled),
    ("log", .array (v.log.map LogEntry.toJson)),
    ("search_result", match v.searchResult with
      | some r => r.toJson
      | none => .null),
    ("last_end", match v.lastEnd with
      | some e => .string e.name
      | none => .null)]

end View

end VoiceSession
