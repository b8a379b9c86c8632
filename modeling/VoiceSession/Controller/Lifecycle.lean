import VoiceSession.Controller.Router
/-!
# Connecting and disconnecting

A connect creates the transport, then awaits the devices and the join; a disconnect tears the
session down. While a call is awaited the controller works one turn at a time (`Ctl.turn`): it
polls the call, dispatches one queued event or takes one request. An operation answers
`some state` when it is over and `none` while it waits.
-/

namespace VoiceSession

namespace Ctl

variable {σ : Type}

def finish : Ctl σ (Option ConnectionState) := do
  modify fun c => { c with waiting := none }
  return some (← state)

def await (w : World σ) (wt : Waiting) (call : Call) : Ctl σ (Option ConnectionState) := do
  modify fun c => { c with waiting := some wt }
  liftM (w.begin wt.session call)
  return none

/-- What follows a teardown. -/
def afterLeave (w : World σ) : AfterLeave → Ctl σ (Option ConnectionState)
  | .disconnect => do
    setStatus "Disconnected"
    let _ ← processPending w
    publish
    finish
  | .failedConnect => do
    let _ ← processPending w
    finish

/-- Tears the session down: the transport is asked to disconnect if there is a session (whose
events are ignored from now on), then the session is released. -/
def teardown (w : World σ) (reason : SessionEnd) (after : AfterLeave) :
    Ctl σ (Option ConnectionState) := do
  match (← get).session with
  | none =>
    releaseSession w reason
    afterLeave w after
  | some a =>
    modify fun c => { c with session := some { a with tombstoned := true } }
    await w (.leaving a.id reason after) .leave

/-- A failed connect: logged, state error, status `Error`, then torn down. -/
def failConnect (w : World σ) (f : Failure) : Ctl σ (Option ConnectionState) := do
  log ("Error connecting: " ++ f.describe)
  setState .error
  setStatus "Error"
  teardown w .connectFailed .failedConnect

/-- Ends the current session; with none, only answers waiting requests. -/
def disconnect (w : World σ) : Ctl σ (Option ConnectionState) := do
  let c ← get
  if c.state == .idle && c.session.isNone then
    notifyWaiters w
    finish
  else
    setState .disconnecting
    teardown w .requested .disconnect

/-- Starts a session, unless not idle. -/
def connect (w : World σ) : Ctl σ (Option ConnectionState) := do
  let c ← get
  if !c.state.canConnect then return some c.state
  let id : SessionId := ⟨c.started⟩
  modify fun c => { c with started := c.started + 1, routed := [], statusChanges := [] }
  modifyView fun v => { v with log := [], searchResult := none, lastEnd := none }
  setState .connecting
  match ← liftM (w.create id) with
  | .error reason => failConnect w (.connect (Cause.ofMessage reason))
  | .ok () =>
    modify fun c => { c with session := some { id := id } }
    modifyView fun v => { v with session := some id }
    publish
    await w (.devices id) .devices

def endedWhileConnecting (w : World σ) : Ctl σ (Option ConnectionState) := do
  let _ ← processPending w
  finish

/-- Goes on after the awaited call finished with `result`. -/
def resume (w : World σ) (wt : Waiting) (result : Except String Unit) :
    Ctl σ (Option ConnectionState) := do
  modify fun c => { c with waiting := none }
  match wt, result with
  | .devices id, .ok () =>
    if ← isLive id then
      await w (.joining id) (.join (ConnectParams.ofSettings (← get).settings))
    else endedWhileConnecting w
  | .devices id, .error reason =>
    if ← isLive id then failConnect w (.device (Cause.ofMessage reason))
    else endedWhileConnecting w
  | .joining _, .ok () =>
    let _ ← processPending w
    finish
  | .joining id, .error reason =>
    if ← isLive id then failConnect w (.connect (Cause.ofMessage reason))
    else endedWhileConnecting w
  | .leaving _ reason after, r =>
    if let .error e := r then
      log ("Error during disconnect: " ++ (Failure.teardown (Cause.ofMessage e)).describe)
    releaseSession w reason
    afterLeave w after

/-- What a turn of waiting came to. -/
inductive Turn where
  | finished (state : ConnectionState)
  | continues
  | blocked (resumes : Bool)

def Turn.ofStep : Option ConnectionState → Turn
  | some s => .finished s
  | none => .continues

/-- One turn of waiting for the awaited call. -/
def turn (w : World σ) : Ctl σ Turn := do
  match (← get).waiting with
  | none => return .finished (← state)
  | some wt =>
    let p ← liftM w.poll
    for e in p.emitted do
      modify fun c => c.enqueue ⟨wt.session, e⟩
    match p.status with
    | .ready r => return Turn.ofStep (← resume w wt r)
    | .pending resumes =>
      match (← get).inbox with
      | e :: rest =>
        modify fun c => { c with inbox := rest }
        dispatch w e
        match wt.owner with
        | some id =>
          if ← isLive id then return .continues
          else
            modify fun c => { c with waiting := none }
            return Turn.ofStep (← endedWhileConnecting w)
        | none => return .continues
      | [] =>
        match ← liftM w.takeCommand with
        | some (.connect r) =>
          liftM (w.reply r (← state))
          return .continues
        | some (.disconnect r) =>
          modify fun c => { c with waiters := c.waiters ++ [r] }
          if wt.owner.isSome then
            modify fun c => { c with waiting := none }
            return Turn.ofStep (← disconnect w)
          else return .continues
        | none => return .blocked resumes

end Ctl

end VoiceSession
