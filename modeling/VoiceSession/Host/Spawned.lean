import VoiceSession.Host.Runtime
/-!
# Driving a spawned controller

The driver holds a handle to a spawned controller and makes requests, each on a task of its own;
it can also queue events, change the scripts, abort the task or let go of its handle. After each
step the runtime runs until it is idle.
-/

namespace VoiceSession

/-- A step of a spawned run. -/
inductive SpawnedStep where
  | request (job : Job)
  | batch (jobs : List Job)
  | abort
  | shutdown
  | emit (session : SessionId) (event : Event)
  | setTracks (session : SessionId) (tracks : List Track)
  | setScript (script : Script)
  | view

/-- What a step returned. -/
inductive Receipt where
  | request (n : Nat)
  | requests (ns : List Nat)
  | noHandle
  | flag (b : Bool)
  | nothing
  | silent

/-- What a step did. -/
structure SpawnedReport where
  receipt : Receipt
  completed : List (Nat × Outcome)
  pending : List Nat
  running : Bool
  view : View
  calls : List String
  sinkOps : List SinkOp
  created : Nat

namespace Runtime

/-- Starts requests in order. -/
def startAll (rt : Runtime) : List Job → List Nat × Runtime
  | [] => ([], rt)
  | j :: js =>
    let (n, rt) := rt.start j
    let (ns, rt) := rt.startAll js
    (n :: ns, rt)

/-- What a step returns, before the runtime settles. -/
def perform (rt : Runtime) : SpawnedStep → Receipt × Runtime
  | .request j =>
    if rt.driverHandle then
      let (n, rt) := rt.start j
      (.request n, rt)
    else (.noHandle, rt)
  | .batch js =>
    if rt.driverHandle then
      let (ns, rt) := rt.startAll js
      (.requests ns, rt)
    else (.noHandle, rt)
  | .abort => (.silent, rt.dropController)
  | .shutdown => (.silent, rt.releaseHandle)
  | .emit id e =>
    let (sent, rt) := rt.emit ⟨id, e⟩
    (.flag sent, rt)
  | .setTracks id ts => (.nothing, rt.onHost fun h => { h with scripted := h.scripted.setTracks id ts })
  | .setScript sc =>
    (.nothing, rt.onHost fun h => { h with scripted := { h.scripted with script := sc } })
  | .view => (.nothing, rt)

/-- Performs one step and lets the runtime settle. -/
def step (rt : Runtime) (st : SpawnedStep) : SpawnedReport × Runtime :=
  let rt := rt.onHost fun h =>
    { h with scripted := { h.scripted with calls := [], sinkOps := [] }, finished := [] }
  let (receipt, rt) := rt.perform st
  let rt := rt.settle
  ({ receipt := receipt,
     completed := rt.host.finished.mergeSort fun a b => a.1 ≤ b.1,
     pending := rt.pending,
     running := rt.running,
     view := rt.published,
     calls := rt.host.scripted.calls,
     sinkOps := rt.host.scripted.sinkOps,
     created := rt.host.scripted.created }, rt)

end Runtime

end VoiceSession
