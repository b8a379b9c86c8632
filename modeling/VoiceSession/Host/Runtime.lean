import VoiceSession.Controller.Task
import VoiceSession.Host.Script
import VoiceSession.Host.Channel
import VoiceSession.Http.Response
/-!
# The controller on its own task

A spawned controller runs on a single-threaded runtime beside one task per request, reached
through a `Channel`. Ready tasks run first come, first served; a suspended controller is taken up
when nothing else is ready or after `pollsPerCheck` runs. Aborting it closes the channel.
-/

namespace VoiceSession

open Http

def commandCapacity : Nat := 16

def pollsPerCheck : Nat := 61

/-- What a request does: an action through a handle, or an HTTP request to the surface. -/
inductive Job where
  | act (action : Action)
  | serve (request : Http.Request)

/-- How a request ended. -/
inductive Outcome where
  | state (s : ConnectionState)
  | gone
  | response (r : Response)

namespace Job

def action? : Job → Option Action
  | .act a => some a
  | .serve q => q.action?

def answered (j : Job) (s : ConnectionState) (v : View) : Outcome :=
  match j with
  | .act _ => .state s
  | .serve _ => .response (Response.action s v)

def abandoned : Job → Outcome
  | .act _ => .gone
  | .serve _ => .response Response.unavailable

end Job

/-- Where a request task is. -/
inductive Phase where
  | fresh
  | inLine
  | granted
  | sent
  | answered (s : ConnectionState)
  | abandoned
  | done (o : Outcome)

/-- A request task. -/
structure Task where
  job : Job
  phase : Phase := .fresh

/-- A task the runtime can run. -/
inductive Runnable where
  | controller
  | request (index : Nat)
  deriving DecidableEq, Repr

/-- Where the controller's task is. -/
inductive Sched where
  | running
  | queued
  | deferred
  | sleeping
  | stopped
  deriving DecidableEq, Repr

/-- Everything around the controller's task. -/
structure Host where
  scripted : Scripted := {}
  channel : Channel Command := { capacity := commandCapacity }
  tasks : Array Task := #[]
  queue : List Runnable := []
  sched : Sched := .queued
  /-- Handles to the controller: the driver's, and one per request not ended. -/
  handles : Nat := 1
  /-- Requests ended, in the order they ended. -/
  finished : List (Nat × Outcome) := []

namespace Host

def scripting {α : Type} (act : StateM Scripted α) : StateM Host α := fun h =>
  let (a, s) := act.run h.scripted
  (a, { h with scripted := s })

def setPhase (n : Nat) (p : Phase) (h : Host) : Host :=
  { h with tasks := h.tasks.modify n fun t => { t with phase := p } }

def wakeRequest (n : Nat) (h : Host) : Host := { h with queue := h.queue ++ [.request n] }

def wakeController (h : Host) : Host :=
  if h.sched == .sleeping || h.sched == .deferred then
    { h with queue := h.queue ++ [.controller], sched := .queued }
  else h

def reply (r : RequestId) (s : ConnectionState) : StateM Host Unit :=
  modify fun h => (h.setPhase r.index (.answered s)).wakeRequest r.index

/-- Takes the next command; the sender granted the freed room is woken. -/
def takeCommand : StateM Host (Option Command) := do
  let h ← get
  match h.channel.take with
  | none => return none
  | some (c, grant, ch) =>
    set { h with channel := ch }
    if let some n := grant then
      modify fun h => (h.setPhase n .granted).wakeRequest n
    return some c

def closed (h : Host) : Bool := h.handles == 0

/-- The world of the spawned controller. -/
def world : World Host where
  create id := scripting (Scripted.create id)
  begin id call := scripting (Scripted.begin id call)
  poll := scripting Scripted.poll
  tracks id := scripting (Scripted.tracksOf id)
  sink op := scripting (Scripted.sink op)
  reply := reply
  takeCommand := takeCommand
  render := Json.Value.compact

end Host

/-- The runtime of a spawned controller. -/
structure Runtime where
  host : Host
  /-- The controller, until its task ends or is aborted. -/
  controller : Option Controller
  activity : Activity := .listening
  /-- The view last published by a controller that is gone. -/
  lastView : View := {}
  /-- Whether the driver still holds its handle. -/
  driverHandle : Bool := true

namespace Runtime

def published (rt : Runtime) : View :=
  match rt.controller with
  | some c => c.published
  | none => rt.lastView

def running (rt : Runtime) : Bool := rt.controller.isSome

def onHost (rt : Runtime) (f : Host → Host) : Runtime := { rt with host := f rt.host }

/-- Drops the controller: the channel closes and every request waiting on it is abandoned. -/
def dropController (rt : Runtime) : Runtime :=
  match rt.controller with
  | none => rt
  | some c =>
    let h := rt.host
    let h := (List.range h.tasks.size).foldl (fun h n =>
      match h.tasks[n]? with
      | some { phase := .inLine, .. } | some { phase := .sent, .. } =>
        (h.setPhase n .abandoned).wakeRequest n
      | some { phase := .granted, .. } => h.setPhase n .abandoned
      | _ => h) h
    { rt with controller := none, lastView := c.published, activity := .listening,
              host := { h with channel := h.channel.close, sched := .stopped,
                               queue := h.queue.filter (· != .controller) } }

def onController {α : Type} (rt : Runtime) (c : Controller) (act : Ctl Host α) : α × Runtime :=
  let ((a, c), h) := (act.run c).run rt.host
  (a, { rt with controller := some c, host := h })

def rest (rt : Runtime) (s : Sched) : Runtime := rt.onHost fun h => { h with sched := s }

/-- Runs the controller's task until it can do nothing more. -/
def serveController : Nat → Runtime → Runtime
  | 0, rt => rt.rest .deferred
  | fuel + 1, rt =>
    match rt.controller with
    | none => rt
    | some c =>
      let (m, rt) := rt.onController c (Ctl.serveMove Host.world Host.closed rt.activity)
      match m with
      | .next activity => serveController fuel { rt with activity := activity }
      | .rest true => rt.rest .deferred
      | .rest false => rt.rest .sleeping
      | .stop => rt.dropController

def controllerTurns : Nat := 100000

def finish (rt : Runtime) (n : Nat) (o : Outcome) : Runtime :=
  rt.onHost fun h =>
    let h := { h.setPhase n (.done o) with finished := h.finished ++ [(n, o)], handles := h.handles - 1 }
    if h.handles == 0 then h.wakeController else h

def offered (rt : Runtime) (n : Nat) (j : Job) : Channel.Offer × Channel Command → Runtime
  | (.sent, ch) => rt.onHost fun h => ({ h with channel := ch }.setPhase n .sent).wakeController
  | (.inLine, ch) => rt.onHost fun h => { h with channel := ch }.setPhase n .inLine
  | (.refused, _) => rt.finish n j.abandoned

/-- Runs a request task until it waits or ends. -/
def runRequest (rt : Runtime) (n : Nat) : Runtime :=
  match rt.host.tasks[n]? with
  | none => rt
  | some t =>
    match t.phase with
    | .fresh =>
      match t.job, t.job.action? with
      | _, some a => rt.offered n t.job (rt.host.channel.offer n (a.command ⟨n⟩))
      | .serve q, none => rt.finish n (.response (q.answer rt.published))
      | .act _, none => rt
    | .granted =>
      match t.job.action? with
      | some a => rt.offered n t.job (rt.host.channel.deliver n (a.command ⟨n⟩))
      | none => rt
    | .answered s => rt.finish n (t.job.answered s rt.published)
    | .abandoned => rt.finish n t.job.abandoned
    | _ => rt

def resumeDeferred (rt : Runtime) : Runtime :=
  rt.onHost fun h => if h.sched == .deferred then h.wakeController else h

/-- Runs ready tasks until none is left and no controller is suspended; `ticks` counts the task
runs since the runtime last looked at suspended tasks. -/
def settleFrom : Nat → Nat → Runtime → Runtime
  | 0, _, rt => rt
  | fuel + 1, ticks, rt =>
    match rt.host.queue with
    | [] =>
      if rt.host.sched == .deferred then settleFrom fuel 0 rt.resumeDeferred else rt
    | r :: later =>
      let rt := rt.onHost fun h => { h with queue := later }
      let rt := match r with
        | .controller => serveController controllerTurns (rt.rest .running)
        | .request n => rt.runRequest n
      if ticks + 1 ≥ pollsPerCheck then settleFrom fuel 0 rt.resumeDeferred
      else settleFrom fuel (ticks + 1) rt

def settleLimit : Nat := 1000000

def settle (rt : Runtime) : Runtime := settleFrom settleLimit 0 rt

def spawn (settings : ControllerSettings) (script : Script) : Runtime :=
  settle { host := { scripted := { script := script }, queue := [.controller] },
           controller := some (Controller.ofSettings settings) }

/-- Starts a request task, holding a handle; gives its number. -/
def start (rt : Runtime) (j : Job) : Nat × Runtime :=
  let n := rt.host.tasks.size
  (n, rt.onHost fun h =>
    { h with tasks := h.tasks.push { job := j }, handles := h.handles + 1,
             queue := h.queue ++ [.request n] })

/-- The driver lets go of its handle. -/
def releaseHandle (rt : Runtime) : Runtime :=
  if rt.driverHandle then
    let rt := { rt with driverHandle := false }
    rt.onHost fun h =>
      let h := { h with handles := h.handles - 1 }
      if h.handles == 0 then h.wakeController else h
  else rt

def emit (rt : Runtime) (e : Envelope) : Bool × Runtime :=
  match rt.controller with
  | some c => (true, { rt with controller := some (c.enqueue e) }.onHost Host.wakeController)
  | none => (false, rt)

/-- Requests not ended, by number. -/
def pending (rt : Runtime) : List Nat :=
  (List.range rt.host.tasks.size).filter fun n =>
    match rt.host.tasks[n]? with
    | some { phase := .done _, .. } => false
    | _ => true

end Runtime

end VoiceSession
