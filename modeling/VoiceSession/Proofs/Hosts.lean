import VoiceSession.Proofs.Consistency
import VoiceSession.Host.Direct
import VoiceSession.Host.Spawned
/-!
# Runs of the two hosts

A `Bench` drives the controller directly and a `Runtime` runs it on a task of its own; both are
built from the controller's operations, so the invariant of `Consistency` holds at every state
either can reach, by induction over the steps and the fuel of each loop.
-/

namespace VoiceSession

open Controller

namespace Ctl

variable {σ : Type} (w : World σ)

/-- Awaiting an operation turn after turn keeps the controller consistent, however many turns
it takes and whether or not it ends. -/
theorem runToEnd_consistent (fuel : Nat) :
    Triple (fun c _ => c.Consistent) (runToEnd w fuel) (fun _ c _ => c.Consistent) := by
  induction fuel with
  | zero => exact fun _ _ hc => hc
  | succ fuel ih =>
      intro c s hc
      simp only [runToEnd, wp_bind]
      refine (turn_consistent w).wp hc fun t c s h => ?_
      cases t with
      | finished st => exact h
      | continues => exact ih c s h
      | blocked resumes =>
          cases resumes with
          | true => exact ih c s h
          | false => exact h

theorem awaitFor_consistent {op : Ctl σ (Option ConnectionState)}
    (hop : Triple (fun c _ => c.Consistent) op (fun _ c _ => c.Consistent)) (fuel : Nat) :
    Triple (fun c _ => c.Consistent) (awaitFor w fuel op) (fun _ c _ => c.Consistent) := by
  intro c s hc
  simp only [awaitFor, wp_bind]
  refine hop.wp hc fun r c s h => ?_
  cases r with
  | some st => exact h
  | none => exact (runToEnd_consistent w fuel).wp h fun _ _ _ h => h

theorem complete_consistent (a : Activity) (st : ConnectionState) :
    Triple (fun c _ => c.Consistent) (complete w a st) (fun _ c _ => c.Consistent) := by
  intro c s hc
  cases a <;> exact hc

theorem proceed_consistent (a : Activity) (res : Option ConnectionState) :
    Triple (fun c _ => c.Consistent) (proceed w a res) (fun _ c _ => c.Consistent) := by
  cases res with
  | some st => exact complete_consistent w a st
  | none => exact fun _ _ hc => hc

/-- A move of the controller's task keeps the controller consistent: it dispatches an event,
starts an operation, takes a turn of waiting, or only answers a request. -/
theorem serveMove_consistent (closed : σ → Bool) (a : Activity) :
    Triple (fun c _ => c.Consistent) (serveMove w closed a) (fun _ c _ => c.Consistent) := by
  intro c s hc
  have hdisconnect : Triple (fun c _ => c.Consistent) (disconnect w) (fun _ c _ => c.Consistent) :=
    (disconnect_consistent w).mono (fun _ _ h => h.clearWaiters) fun _ _ _ h => h
  cases a with
  | listening =>
      simp only [serveMove, wp_bind, wp_get]
      split
      · simp only [wp_bind, wp_set]
        exact (dispatch_consistent w _).wp { hc with } fun _ _ _ h => h
      simp only [wp_bind, wp_lift]
      split
      · exact (connect_consistent w).wp hc fun res _ _ h => proceed_consistent w _ res _ _ h
      · exact hdisconnect.wp hc fun res _ _ h => proceed_consistent w _ res _ _ h
      · simp only [wp_bind, wp_getWorld]
        split
        · split
          · exact hdisconnect.wp hc fun res _ _ h => proceed_consistent w _ res _ _ h
          · exact hc
        · exact hc
  | serving r =>
      simp only [serveMove, wp_bind]
      refine (turn_consistent w).wp hc fun t c s h => ?_
      cases t with
      | finished st => exact complete_consistent w _ st c s h
      | continues => exact h
      | blocked resumes => exact h
  | closing =>
      simp only [serveMove, wp_bind]
      refine (turn_consistent w).wp hc fun t c s h => ?_
      cases t with
      | finished st => exact complete_consistent w _ st c s h
      | continues => exact h
      | blocked resumes => exact h

end Ctl

namespace Bench

/-- The benches a direct run can reach: a fresh controller with scripted transports, then any
sequence of steps. -/
inductive Reachable : Bench → Prop
  | start (settings : ControllerSettings) (script : Script) :
      Reachable { controller := .ofSettings settings, scripted := { script := script } }
  | step {b : Bench} (st : DirectStep) : Reachable b → Reachable (b.step st).2

/-- A direct step keeps the controller consistent: it runs one operation to its end, queues an
event, or leaves the controller alone. -/
theorem step_consistent (b : Bench) (st : DirectStep) (h : b.controller.Consistent) :
    (b.step st).2.controller.Consistent := by
  cases st with
  | connect =>
      exact Ctl.awaitFor_consistent _ (Ctl.connect_consistent _) turnLimit _ _ h
  | disconnect =>
      exact Ctl.awaitFor_consistent _
        ((Ctl.disconnect_consistent _).mono (fun _ _ h => h.clearWaiters) fun _ _ _ h => h)
        turnLimit _ _ h
  | process => exact Ctl.processPending_consistent _ _ _ h
  | emit id e => exact h.enqueue _
  | setTracks id ts => exact h
  | setScript sc => exact h
  | view => exact h
  | entries cat => exact h

theorem Reachable.consistent {b : Bench} (hb : b.Reachable) : b.controller.Consistent := by
  induction hb with
  | start settings script => exact consistent_ofSettings settings
  | step st _ ih => exact step_consistent _ st ih

end Bench

namespace Runtime

def Sound (rt : Runtime) : Prop := ∀ c, rt.controller = some c → c.Consistent

theorem Sound.onHost {rt : Runtime} (h : rt.Sound) (f : Host → Host) : (rt.onHost f).Sound := h

theorem Sound.rest {rt : Runtime} (h : rt.Sound) (sched : Sched) : (rt.rest sched).Sound := h

theorem Sound.onController {α : Type} {rt : Runtime} {c : Controller} {act : Ctl Host α}
    (hact : Ctl.Triple (fun c _ => c.Consistent) act (fun _ c _ => c.Consistent))
    (hc : c.Consistent) : (rt.onController c act).2.Sound := by
  rintro c' hc'
  cases hc'
  exact hact c rt.host hc

theorem Sound.dropController {rt : Runtime} (h : rt.Sound) : rt.dropController.Sound := by
  unfold Runtime.dropController
  split
  · exact h
  · intro _ hc
    cases hc

/-- The controller task keeps the runtime sound: each of its moves keeps the controller
consistent, and the host only goes on with it, lets it rest, or drops it. -/
theorem Sound.serveController {rt : Runtime} (h : rt.Sound) (fuel : Nat) :
    (serveController fuel rt).Sound := by
  induction fuel generalizing rt with
  | zero => exact h.rest _
  | succ fuel ih =>
      rcases hctl : rt.controller with _ | c
      · simpa only [Runtime.serveController, hctl] using h
      have hmove : (rt.onController c (Ctl.serveMove Host.world Host.closed rt.activity)).2.Sound :=
        Sound.onController (Ctl.serveMove_consistent _ _ _) (h c hctl)
      rcases hrun : rt.onController c (Ctl.serveMove Host.world Host.closed rt.activity) with
        ⟨m, rt'⟩
      rw [hrun] at hmove
      simp only [Runtime.serveController, hctl, hrun]
      rcases m with activity | resumes | _
      · exact ih hmove
      · cases resumes with
        | true => exact hmove.rest _
        | false => exact hmove.rest _
      · exact hmove.dropController

theorem offered_controller (rt : Runtime) (n : Nat) (j : Job)
    (o : Channel.Offer × Channel Command) : (rt.offered n j o).controller = rt.controller := by
  unfold Runtime.offered
  split <;> rfl

theorem runRequest_controller (rt : Runtime) (n : Nat) :
    (rt.runRequest n).controller = rt.controller := by
  unfold Runtime.runRequest
  split
  · rfl
  · split
    · split
      · exact offered_controller ..
      · rfl
      · rfl
    · split
      · exact offered_controller ..
      · rfl
    · rfl
    · rfl
    · rfl

theorem Sound.settleFrom {rt : Runtime} (h : rt.Sound) (fuel ticks : Nat) :
    (settleFrom fuel ticks rt).Sound := by
  induction fuel generalizing ticks rt with
  | zero => exact h
  | succ fuel ih =>
      rcases hq : rt.host.queue with _ | ⟨r, later⟩
      · simp only [Runtime.settleFrom, hq]
        split
        · exact ih (h.onHost _) _
        · exact h
      -- the task at the head of the queue runs: the controller's, or a request's
      simp only [Runtime.settleFrom, hq]
      cases r with
      | controller =>
          have hnext : (Runtime.serveController controllerTurns
              ((rt.onHost fun h => { h with queue := later }).rest .running)).Sound :=
            Sound.serveController ((h.onHost _).rest _) _
          dsimp only
          split
          · exact ih (hnext.onHost _) _
          · exact ih hnext _
      | request n =>
          have hnext : ((rt.onHost fun h => { h with queue := later }).runRequest n).Sound := by
            intro c hc
            rw [runRequest_controller] at hc
            exact h c hc
          dsimp only
          split
          · exact ih (hnext.onHost _) _
          · exact ih hnext _

theorem Sound.startAll {rt : Runtime} (h : rt.Sound) (jobs : List Job) :
    (rt.startAll jobs).2.Sound := by
  induction jobs generalizing rt with
  | nil => exact h
  | cons j js ih => exact ih (show Sound (rt.start j).2 from h)

theorem Sound.perform {rt : Runtime} (h : rt.Sound) (st : SpawnedStep) : (rt.perform st).2.Sound := by
  cases st with
  | request j =>
      by_cases hd : rt.driverHandle = true
      · simp only [Runtime.perform, hd, Runtime.start, if_true]
        exact h
      · simp only [Runtime.perform, hd, Bool.false_eq_true, if_false]
        exact h
  | batch js =>
      have hs := h.startAll js
      rcases hstart : rt.startAll js with ⟨ns, rt'⟩
      rw [hstart] at hs
      by_cases hd : rt.driverHandle = true
      · simp only [Runtime.perform, hd, hstart, if_true]
        exact hs
      · simp only [Runtime.perform, hd, Bool.false_eq_true, if_false]
        exact h
  | abort => exact h.dropController
  | shutdown =>
      by_cases hd : rt.driverHandle = true
      · simp only [Runtime.perform, Runtime.releaseHandle, hd, if_true]
        exact h
      · simp only [Runtime.perform, Runtime.releaseHandle, hd, Bool.false_eq_true, if_false]
        exact h
  | emit id e =>
      rcases hctl : rt.controller with _ | c
      · simpa only [Runtime.perform, Runtime.emit, hctl] using h
      · simp only [Runtime.perform, Runtime.emit, hctl]
        rintro c' hc'
        cases hc'
        exact (h c hctl).enqueue _
  | setTracks id ts => exact h.onHost _
  | setScript sc => exact h.onHost _
  | view => exact h

/-- The runtimes a spawned run can reach: a freshly spawned controller, then any sequence of
steps of its driver. -/
inductive Reachable : Runtime → Prop
  | spawn (settings : ControllerSettings) (script : Script) : Reachable (spawn settings script)
  | step {rt : Runtime} (st : SpawnedStep) : Reachable rt → Reachable (rt.step st).2

theorem Reachable.sound {rt : Runtime} (hrt : rt.Reachable) : rt.Sound := by
  induction hrt with
  | spawn settings script =>
      refine Sound.settleFrom (fun c hc => ?_) _ _
      cases hc
      exact consistent_ofSettings settings
  | step st _ ih => exact Sound.settleFrom (Sound.perform (ih.onHost _) st) _ _

end Runtime

/-- **The controller stays consistent.** A fresh controller is consistent, and in every world each
dispatch, connect, disconnect and turn of waiting keeps it so; hence so is every controller that a
direct run or a spawned run reaches. -/
theorem consistent_throughout :
    (∀ settings, (Controller.ofSettings settings).Consistent) ∧
    (∀ (σ : Type) (w : World σ),
      (∀ e, Ctl.Triple (fun c _ => c.Consistent) (Ctl.dispatch w e) (fun _ c _ => c.Consistent)) ∧
      Ctl.Triple (fun c _ => c.Consistent) (Ctl.processPending w) (fun _ c _ => c.Consistent) ∧
      Ctl.Triple (fun c _ => c.Consistent) (Ctl.connect w) (fun _ c _ => c.Consistent) ∧
      Ctl.Triple (fun c _ => c.Consistent) (Ctl.disconnect w) (fun _ c _ => c.Consistent) ∧
      Ctl.Triple (fun c _ => c.Consistent) (Ctl.turn w) (fun _ c _ => c.Consistent)) ∧
    (∀ b : Bench, b.Reachable → b.controller.Consistent) ∧
    (∀ rt : Runtime, rt.Reachable → ∀ c, rt.controller = some c → c.Consistent) :=
  ⟨consistent_ofSettings,
   fun _ w => ⟨Ctl.dispatch_consistent w, Ctl.processPending_consistent w, Ctl.connect_consistent w,
     (Ctl.disconnect_consistent w).mono (fun _ _ h => h.clearWaiters) (fun _ _ _ h => h),
     Ctl.turn_consistent w⟩,
   fun _ hb => hb.consistent,
   fun _ hrt => hrt.sound⟩

/-- A fresh bench that connects, and a freshly spawned controller asked to connect, are reachable
and consistent. -/
theorem consistent_after_first_connect :
    Bench.Reachable ((Bench.mk (.ofSettings {}) { script := {} }).step .connect).2 ∧
      ((Bench.mk (.ofSettings {}) { script := {} }).step .connect).2.controller.Consistent ∧
    Runtime.Reachable ((Runtime.spawn {} {}).step (.request (.act .connect))).2 ∧
      ∀ c, ((Runtime.spawn {} {}).step (.request (.act .connect))).2.controller = some c →
        c.Consistent :=
  have hb : Bench.Reachable ((Bench.mk (.ofSettings {}) { script := {} }).step .connect).2 :=
    .step .connect (.start {} {})
  have hrt : Runtime.Reachable ((Runtime.spawn {} {}).step (.request (.act .connect))).2 :=
    .step _ (.spawn {} {})
  ⟨hb, consistent_throughout.2.2.1 _ hb, hrt, consistent_throughout.2.2.2 _ hrt⟩

end VoiceSession
