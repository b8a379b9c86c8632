import VoiceSession.Controller.Lifecycle
import VoiceSession.Host.Script
/-!
# Driving the controller directly

The caller owns the controller and awaits each operation turn after turn (`Ctl.awaitFor`); an
operation whose call waits forever with nothing left to dispatch hangs. A `Bench` is a controller
with scripted transports, and `Bench.step` reports what a step returned and what it caused.
-/

namespace VoiceSession

/-- The scripted world of a directly driven controller: nobody else sends requests. -/
def Scripted.world : World Scripted where
  create := Scripted.create
  begin := Scripted.begin
  poll := Scripted.poll
  tracks := Scripted.tracksOf
  sink := Scripted.sink
  reply := fun _ _ => pure ()
  takeCommand := pure none
  render := Json.Value.compact

def turnLimit : Nat := 20000

/-- Runs the awaited operation to its end: `none` when it hangs. -/
def Ctl.runToEnd {σ : Type} (w : World σ) : Nat → Ctl σ (Option ConnectionState)
  | 0 => pure none
  | fuel + 1 => do
    match ← Ctl.turn w with
    | .finished s => pure (some s)
    | .continues | .blocked true => Ctl.runToEnd w fuel
    | .blocked false => pure none

/-- Runs an operation, awaiting it for at most `fuel` turns. -/
def Ctl.awaitFor {σ : Type} (w : World σ) (fuel : Nat) (op : Ctl σ (Option ConnectionState)) :
    Ctl σ (Option ConnectionState) := do
  match ← op with
  | some s => pure (some s)
  | none => Ctl.runToEnd w fuel

def Ctl.await? {σ : Type} (w : World σ) (op : Ctl σ (Option ConnectionState)) :
    Ctl σ (Option ConnectionState) :=
  Ctl.awaitFor w turnLimit op

/-- A directly driven controller with scripted transports. -/
structure Bench where
  controller : Controller
  scripted : Scripted := {}

/-- A step of a direct run. -/
inductive DirectStep where
  | connect
  | disconnect
  | process
  | emit (session : SessionId) (event : Event)
  | setTracks (session : SessionId) (tracks : List Track)
  | setScript (script : Script)
  | view
  | entries (category : LogCategory)

/-- What a step returned. -/
inductive StepValue where
  | state (s : ConnectionState)
  | flag (b : Bool)
  | count (n : Nat)
  | texts (ts : List String)
  | nothing
  deriving DecidableEq, Repr

/-- What a step did: its value (`none` if it hung), the calls and sink operations it caused. -/
structure StepReport where
  value : Option StepValue
  calls : List String
  sinkOps : List SinkOp

namespace Bench

def run {α : Type} (b : Bench) (act : Ctl Scripted α) : α × Bench :=
  let ((a, c), s) := (act.run b.controller).run b.scripted
  (a, { controller := c, scripted := s })

def outcome : Option ConnectionState → Option StepValue
  | some s => some (.state s)
  | none => none

/-- Performs one step. -/
def step (b : Bench) (st : DirectStep) : StepReport × Bench :=
  let b := { b with scripted := { b.scripted with calls := [], sinkOps := [] } }
  let (value, b) : Option StepValue × Bench := match st with
    | .connect =>
      let (r, b) := b.run (Ctl.await? Scripted.world (Ctl.connect Scripted.world))
      (outcome r, b)
    | .disconnect =>
      let (r, b) := b.run (Ctl.await? Scripted.world (Ctl.disconnect Scripted.world))
      (outcome r, b)
    | .process =>
      let (n, b) := b.run (Ctl.processPending Scripted.world)
      (some (.count n), b)
    | .emit id e => (some (.flag true), { b with controller := b.controller.enqueue ⟨id, e⟩ })
    | .setTracks id ts => (some .nothing, { b with scripted := b.scripted.setTracks id ts })
    | .setScript sc => (some .nothing, { b with scripted := { b.scripted with script := sc } })
    | .view => (some .nothing, b)
    | .entries cat => (some (.texts ((b.controller.view.entries cat).map (·.text))), b)
  ({ value := value, calls := b.scripted.calls, sinkOps := b.scripted.sinkOps }, b)

end Bench

end VoiceSession
