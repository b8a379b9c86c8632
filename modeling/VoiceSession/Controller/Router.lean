import VoiceSession.Controller.Basic
/-!
# Routing events

`Ctl.dispatch` acts on one event. An event of a session that is not live (another session, or
one whose teardown has begun) is dropped untouched; otherwise each kind has its one effect and
the view is published.
-/

namespace VoiceSession

namespace Ctl

variable {σ : Type}

def reconcileTracks (w : World σ) (id : SessionId) : Ctl σ Unit := do
  let tracks ← liftM (w.tracks id)
  let _ ← useBinder w (·.reconcile tracks)

/-- Acts on one event of a live session, then publishes; drops events of other sessions. -/
def dispatch (w : World σ) (e : Envelope) : Ctl σ Unit := do
  if !(← isLive e.session) then return
  modify fun c => { c with routed := c.routed ++ [e] }
  match e.event with
  | .connected =>
    setState .connected
    setStatus "Connected"
  | .disconnected =>
    releaseSession w .remote
    setStatus "Disconnected"
  | .transportStateChanged s =>
    modifyView fun v => { v with transportState := some s }
    setStatus ("Transport: " ++ s.name)
    if s == .ready then reconcileTracks w e.session
  | .trackStarted t p =>
    if !p.isLocal && t.isRemoteAudio then
      let _ ← useBinder w (·.bind t)
  | .trackStopped t p => log ("Track stopped: " ++ t.kind.title ++ " from " ++ p.display)
  | .botConnected p => log ("Bot connected: " ++ p.display)
  | .botDisconnected p => log ("Bot disconnected: " ++ p.display)
  | .botReady data =>
    log ("Bot ready: " ++ w.render data)
    reconcileTracks w e.session
  | .userTranscript t => if t.isFinal then log ("User: " ++ t.text)
  | .botTranscript t => log ("Bot: " ++ t.text)
  | .searchResponse r => modifyView fun v => { v with searchResult := some (SearchResult.ofResponse r) }
  | .messageError data => log ("Error: " ++ (Failure.message (w.render data)).describe)
  | .error data => log ("Error: " ++ (Failure.runtime (w.render data)).describe)
  publish

/-- Dispatches every queued event, oldest first; answers how many there were. -/
def processPending (w : World σ) : Ctl σ Nat := do
  let queued := (← get).inbox
  modify fun c => { c with inbox := [] }
  for e in queued do
    dispatch w e
  return queued.length

end Ctl

end VoiceSession
