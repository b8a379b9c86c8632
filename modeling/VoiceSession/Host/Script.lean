import VoiceSession.Controller.Basic
/-!
# A scripted transport

A transport whose calls, failures, reported events, suspensions and tracks are fixed in advance
by a `Script`. `Scripted` holds the transports of a run, one per session created, the call in
progress and a log of every call, written `s<i>:<call>`.
-/

namespace VoiceSession

/-- What a scripted transport does. -/
structure Script where
  createError : Option String := none
  deviceError : Option String := none
  connectError : Option String := none
  disconnectError : Option String := none
  tracks : List Track := []
  onDevice : List Event := []
  onConnect : List Event := []
  onDisconnect : List Event := []
  holdConnect : Bool := false
  deviceYields : Nat := 0
  connectYields : Nat := 0
  disconnectYields : Nat := 0
  deriving Repr

/-- The transport of one session: its script and the tracks it knows. -/
structure Transport where
  script : Script
  tracks : List Track
  deriving Repr

/-- A call in progress and how often it was polled. -/
structure CallInProgress where
  session : SessionId
  call : Call
  polls : Nat := 0
  deriving Repr

/-- The scripted transports of a run. -/
structure Scripted where
  script : Script := {}
  transports : Array Transport := #[]
  current : Option CallInProgress := none
  calls : List String := []
  sinkOps : List SinkOp := []
  deriving Repr

namespace Scripted

def label (id : SessionId) (what : String) : String :=
  "s" ++ toString id.index ++ ":" ++ what

def Call.describe : Call → String
  | .devices => "initialize_devices"
  | .join p => "connect " ++ p.endpoint ++ " mic=" ++ toString p.enableMic ++ " cam=" ++ toString p.enableCam
  | .leave => "disconnect"

def record (id : SessionId) (what : String) : StateM Scripted Unit :=
  modify fun s => { s with calls := s.calls ++ [label id what] }

def transport (s : Scripted) (id : SessionId) : Transport :=
  s.transports.getD id.index { script := {}, tracks := [] }

/-- Creates the transport of session `id` with the current script; fails as scripted. -/
def create (id : SessionId) : StateM Scripted (Except String Unit) := do
  record id "create"
  let s ← get
  set { s with transports := s.transports.push { script := s.script, tracks := s.script.tracks } }
  match s.script.createError with
  | some e => return .error e
  | none => return .ok ()

def begin (id : SessionId) (call : Call) : StateM Scripted Unit :=
  modify fun s => { s with current := some { session := id, call := call } }

def plan (sc : Script) : Call → List Event × Nat × Bool × Option String
  | .devices => (sc.onDevice, sc.deviceYields, false, sc.deviceError)
  | .join _ => (sc.onConnect, sc.connectYields, sc.holdConnect, sc.connectError)
  | .leave => (sc.onDisconnect, sc.disconnectYields, false, sc.disconnectError)

/-- Polls the call in progress once. -/
def poll : StateM Scripted Polled := do
  let s ← get
  match s.current with
  | none => return { emitted := [], status := .pending false }
  | some c =>
    let (events, yields, holds, failure) := plan (s.transport c.session).script c.call
    if c.polls == 0 then record c.session (Call.describe c.call)
    modify fun s => { s with current := some { c with polls := c.polls + 1 } }
    let emitted := if c.polls == 0 then events else []
    if c.polls < yields then return { emitted := emitted, status := .pending true }
    else if holds then return { emitted := emitted, status := .pending false }
    else
      let result : Except String Unit := match failure with
        | some e => .error e
        | none => .ok ()
      return { emitted := emitted, status := .ready result }

def tracksOf (id : SessionId) : StateM Scripted (List Track) := do
  record id "tracks"
  return ((← get).transport id).tracks

def sink (op : SinkOp) : StateM Scripted Unit :=
  modify fun s => { s with sinkOps := s.sinkOps ++ [op] }

def setTracks (id : SessionId) (ts : List Track) : Scripted → Scripted := fun s =>
  { s with transports := s.transports.modify id.index fun t => { t with tracks := ts } }

def created (s : Scripted) : Nat := s.transports.size

end Scripted

end VoiceSession
