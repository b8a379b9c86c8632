import VoiceSession.Event
import VoiceSession.Binder
import VoiceSession.Failure
import VoiceSession.Settings.Basic
/-!
# The session controller's state

The controller owns the single voice session, its audio binder, its view, the inbox of events not
yet dispatched and the disconnect requests waiting for a teardown. Everything else is a `World`
with a state `σ` of its own; operations run in `Ctl σ`, which changes both.
-/

namespace VoiceSession

/-- A request made to a running controller, by its number. -/
structure RequestId where
  index : Nat
  deriving DecidableEq, Repr

/-- What a request asks a running controller to do. -/
inductive Action where
  | connect
  | disconnect
  deriving DecidableEq, Repr

/-- A request to a running controller: connect or disconnect, answered with the state. -/
inductive Command where
  | connect (request : RequestId)
  | disconnect (request : RequestId)
  deriving DecidableEq, Repr

def Action.command : Action → RequestId → Command
  | .connect => .connect
  | .disconnect => .disconnect

/-- A transport call that completes later. -/
inductive Call where
  | devices
  | join (params : ConnectParams)
  | leave
  deriving DecidableEq, Repr

/-- What one poll of a call finds. -/
inductive PollStatus where
  | ready (result : Except String Unit)
  | pending (resumes : Bool)

/-- One poll of a call: the events the transport reported meanwhile, and where the call is. -/
structure Polled where
  emitted : List Event
  status : PollStatus

/-- The world around the controller, keeping a state `σ`. -/
structure World (σ : Type) where
  /-- Builds the transport of a new session, or refuses with a reason. -/
  create : SessionId → StateM σ (Except String Unit)
  /-- Starts a call on a session's transport. -/
  begin : SessionId → Call → StateM σ Unit
  /-- Polls the call in progress once. -/
  poll : StateM σ Polled
  /-- The tracks a session's transport knows. -/
  tracks : SessionId → StateM σ (List Track)
  /-- Operates the audio sink. -/
  sink : SinkOp → StateM σ Unit
  /-- Answers a request with a state. -/
  reply : RequestId → ConnectionState → StateM σ Unit
  /-- The next request waiting for the controller, if there is one. -/
  takeCommand : StateM σ (Option Command)
  /-- How the JSON library writes a value. -/
  render : Json.Value → String

/-- Why a teardown runs, and so what follows it. -/
inductive AfterLeave where
  | disconnect
  | failedConnect
  deriving DecidableEq, Repr

/-- The transport call the controller waits for, and what comes after it. -/
inductive Waiting where
  | devices (session : SessionId)
  | joining (session : SessionId)
  | leaving (session : SessionId) (reason : SessionEnd) (after : AfterLeave)
  deriving DecidableEq, Repr

namespace Waiting

def session : Waiting → SessionId
  | .devices s | .joining s | .leaving s _ _ => s

/-- A connect's wait is given up when its session stops being live, or when a disconnect is
requested; a teardown's wait is never given up. -/
def owner : Waiting → Option SessionId
  | .devices s | .joining s => some s
  | .leaving .. => none

end Waiting

/-- The current session: its id, and whether its teardown has begun. -/
structure Active where
  id : SessionId
  tombstoned : Bool := false
  deriving DecidableEq, Repr

/-- The controller. -/
structure Controller where
  settings : ControllerSettings := {}
  session : Option Active := none
  binder : Binder := {}
  view : View := {}
  published : View := {}
  inbox : List Envelope := []
  waiters : List RequestId := []
  /-- Sessions started so far; the next one gets this number. -/
  started : Nat := 0
  waiting : Option Waiting := none
  /-- Each lifecycle state entered, with the state it left, oldest first; the diagnostic trace
  reports those that changed it. -/
  transitions : List (ConnectionState × ConnectionState) := []
  /-- The envelopes handed to a handler since the log was last emptied, oldest first. -/
  routed : List Envelope := []
  /-- The statuses set since the log was last emptied, oldest first. -/
  statusChanges : List String := []

abbrev Ctl (σ : Type) := StateT Controller (StateM σ)

namespace Controller

def ofSettings (s : ControllerSettings) : Controller := { settings := s }

def state (c : Controller) : ConnectionState := c.view.connection

def isLive (c : Controller) (id : SessionId) : Bool :=
  match c.session with
  | some a => a.id == id && !a.tombstoned
  | none => false

def enqueue (c : Controller) (e : Envelope) : Controller := { c with inbox := c.inbox ++ [e] }

end Controller

namespace Ctl

variable {σ : Type}

def state : Ctl σ ConnectionState := do return (← get).state

def isLive (id : SessionId) : Ctl σ Bool := do return (← get).isLive id

def modifyView (f : View → View) : Ctl σ Unit :=
  modify fun c => { c with view := f c.view }

def publish : Ctl σ Unit :=
  modify fun c => { c with published := c.view }

/-- Enters a lifecycle state, offering the actions it allows, and publishes. -/
def setState (s : ConnectionState) : Ctl σ Unit := do
  modify fun c => { c with transitions := c.transitions ++ [(c.view.connection, s)] }
  modifyView fun v =>
    { v with connection := s, connectEnabled := s.canConnect, disconnectEnabled := s.canDisconnect }
  publish

def log (text : String) : Ctl σ Unit :=
  modifyView fun v => { v with log := v.log ++ [LogEntry.ofText text] }

def setStatus (s : String) : Ctl σ Unit := do
  log ("Status: " ++ s)
  modifyView fun v => { v with status := s }
  modify fun c => { c with statusChanges := c.statusChanges ++ [s] }

/-- Runs a binder operation, passing its sink operations to the world. -/
def useBinder (w : World σ) (f : Binder → Binder.Outcome) : Ctl σ Bool := do
  let o := f (← get).binder
  modify fun c => { c with binder := o.binder }
  for op in o.ops do
    liftM (w.sink op)
  return o.acted

/-- Answers every waiting disconnect request with the current state. -/
def notifyWaiters (w : World σ) : Ctl σ Unit := do
  let s ← state
  for r in (← get).waiters do
    liftM (w.reply r s)
  modify fun c => { c with waiters := [] }

/-- Drops the session and what is bound to it, without calling the transport: the sink is
released, the search result, session and transport state cleared, the end recorded, and the
lifecycle back to idle; waiting disconnect requests are answered. -/
def releaseSession (w : World σ) (reason : SessionEnd) : Ctl σ Unit := do
  modify fun c => { c with session := none }
  let _ ← useBinder w Binder.release
  modifyView fun v =>
    { v with searchResult := none, session := none, transportState := none, lastEnd := some reason }
  setState .idle
  notifyWaiters w

end Ctl

end VoiceSession
