import VoiceSession.Json.Decode
/-!
# Connection and transport states

`ConnectionState` is where the controller's lifecycle stands; `TransportState` is the phase the
transport reports. Both are written by their lowercase names, and only those names decode.
Connecting is offered only when idle; disconnecting while connecting, connected or failed.
-/

namespace VoiceSession

open Json

/-- Where the session lifecycle stands. -/
inductive ConnectionState where
  | idle
  | connecting
  | connected
  | disconnecting
  | error
  deriving DecidableEq, Repr, Inhabited

namespace ConnectionState

/-- The written name. -/
def name : ConnectionState → String
  | .idle => "idle"
  | .connecting => "connecting"
  | .connected => "connected"
  | .disconnecting => "disconnecting"
  | .error => "error"

def canConnect (s : ConnectionState) : Bool := s == .idle

def canDisconnect : ConnectionState → Bool
  | .connecting | .connected | .error => true
  | _ => false

def all : List ConnectionState := [.idle, .connecting, .connected, .disconnecting, .error]

def decode (v : Value) : Decoded ConnectionState := do
  let n ← Decode.unitVariant (all.map name) v
  return (all.find? (·.name == n)).getD .idle

end ConnectionState

/-- The connectivity phase a transport reports. -/
inductive TransportState where
  | disconnected
  | initializing
  | initialized
  | authenticating
  | connecting
  | connected
  | ready
  | error
  deriving DecidableEq, Repr, Inhabited

namespace TransportState

/-- The written name. -/
def name : TransportState → String
  | .disconnected => "disconnected"
  | .initializing => "initializing"
  | .initialized => "initialized"
  | .authenticating => "authenticating"
  | .connecting => "connecting"
  | .connected => "connected"
  | .ready => "ready"
  | .error => "error"

def all : List TransportState :=
  [.disconnected, .initializing, .initialized, .authenticating, .connecting, .connected, .ready, .error]

def decode (v : Value) : Decoded TransportState := do
  let n ← Decode.unitVariant (all.map name) v
  return (all.find? (·.name == n)).getD .disconnected

end TransportState

end VoiceSession
