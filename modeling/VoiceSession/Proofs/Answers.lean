import VoiceSession.Proofs.LogHistory
import VoiceSession.Proofs.Hosts
/-!
# What an action's answer shows

An action is answered with the state of the reply and the status and offered actions of the view
published when its task runs again, which need not match. What holds at every point of a spawned
run is that every ended request shows something a lifecycle state allows (`Outcome.Fair`).
-/

namespace VoiceSession

open Controller

/-- A property of the world's state that every contact keeps. -/
structure World.Keeps {σ : Type} (w : World σ) (I : σ → Prop) : Prop where
  create : ∀ id s, I s → I ((w.create id).run s).2
  begin : ∀ id call s, I s → I ((w.begin id call).run s).2
  poll : ∀ s, I s → I (w.poll.run s).2
  tracks : ∀ id s, I s → I ((w.tracks id).run s).2
  sink : ∀ op s, I s → I ((w.sink op).run s).2
  reply : ∀ r st s, I s → I ((w.reply r st).run s).2
  takeCommand : ∀ s, I s → I (w.takeCommand.run s).2

namespace World.Keeps

variable {σ : Type} {w : World σ} {I : σ → Prop}

theorem forM_sink (h : w.Keeps I) (ops : List SinkOp) {s : σ} (hs : I s) :
    I ((ops.forM w.sink).run s).2 := by
  induction ops generalizing s with
  | nil => exact hs
  | cons op ops ih => exact ih (h.sink op s hs)

theorem forM_reply (h : w.Keeps I) (rs : List RequestId) (st : ConnectionState) {s : σ}
    (hs : I s) : I ((rs.forM fun r => w.reply r st).run s).2 := by
  induction rs generalizing s with
  | nil => exact hs
  | cons r rs ih => exact ih (h.reply r st s hs)

end World.Keeps

namespace Ctl

variable {σ : Type} (w : World σ) {I : σ → Prop}

/-! ### The world's state between contacts

Each operation keeps every property of the world's state that each contact keeps: apart from
its contacts it only reads the world. -/

section Frame

variable (hI : w.Keeps I)

include hI in
theorem releaseSession_frame (reason : SessionEnd) :
    Triple (fun _ s => I s) (releaseSession w reason) (fun _ _ s => I s) := by
  intro c s hs
  simp only [releaseSession, wp_bind, wp_modify, wp_useBinder, wp_modifyView, wp_setState,
    wp_notifyWaiters]
  exact hI.forM_reply _ _ (hI.forM_sink _ hs)

include hI in
theorem dispatch_frame (e : Envelope) :
    Triple (fun _ s => I s) (dispatch w e) (fun _ _ s => I s) := by
  intro c s hs
  simp only [dispatch, wp_bind, wp_isLive]
  cases c.isLive e.session
  · simpa using hs
  obtain ⟨id, ev⟩ := e
  simp only [Bool.not_true, Bool.false_eq_true, if_false, wp_bind, wp_modify]
  -- the events that contact the world: an end releases, a ready transport or bot and a started
  -- track operate the sink; the rest change only the controller
  cases ev with
  | connected => exact hs
  | disconnected =>
      simp only [wp_bind]
      exact (releaseSession_frame w hI .remote).wp hs fun _ _ _ h => h
  | transportStateChanged st =>
      simp only [wp_bind, wp_modifyView, wp_setStatus]
      split
      · simp only [wp_bind, wp_reconcileTracks, wp_publish]
        exact hI.forM_sink _ (hI.tracks _ _ hs)
      · exact hs
  | trackStarted t p =>
      dsimp only
      split
      · simp only [wp_bind, wp_useBinder, wp_publish]
        exact hI.forM_sink _ hs
      · exact hs
  | trackStopped t p => exact hs
  | botConnected p => exact hs
  | botDisconnected p => exact hs
  | botReady data =>
      simp only [wp_bind, wp_log, wp_reconcileTracks, wp_publish]
      exact hI.forM_sink _ (hI.tracks _ _ hs)
  | userTranscript t =>
      dsimp only
      split <;> exact hs
  | botTranscript t => exact hs
  | searchResponse r => exact hs
  | messageError data => exact hs
  | error data => exact hs

include hI in
theorem processPending_frame :
    Triple (fun _ s => I s) (processPending w) (fun _ _ s => I s) := by
  intro c s hs
  simp only [processPending, wp_bind, wp_get, wp_modify]
  exact (Triple.forIn fun e _ => dispatch_frame w hI e).wp hs fun _ _ _ h => h

include hI in
theorem afterLeave_frame (after : AfterLeave) :
    Triple (fun _ s => I s) (afterLeave w after) (fun _ _ s => I s) := by
  intro c s hs
  cases after with
  | disconnect =>
      simp only [afterLeave, wp_bind, wp_setStatus]
      exact (processPending_frame w hI).wp hs fun _ _ _ h => h
  | failedConnect =>
      simp only [afterLeave, wp_bind]
      exact (processPending_frame w hI).wp hs fun _ _ _ h => h

include hI in
theorem teardown_frame (reason : SessionEnd) (after : AfterLeave) :
    Triple (fun _ s => I s) (teardown w reason after) (fun _ _ s => I s) := by
  intro c s hs
  simp only [teardown, wp_bind, wp_get]
  cases c.session with
  | none =>
      simp only [wp_bind]
      exact (releaseSession_frame w hI reason).wp hs fun _ _ _ h =>
        (afterLeave_frame w hI after).wp h fun _ _ _ h => h
  | some a =>
      simp only [wp_bind, wp_modify, wp_await]
      exact hI.begin _ _ _ hs

include hI in
theorem failConnect_frame (f : Failure) :
    Triple (fun _ s => I s) (failConnect w f) (fun _ _ s => I s) := by
  intro c s hs
  simp only [failConnect, wp_bind, wp_log, wp_setState, wp_setStatus]
  exact (teardown_frame w hI .connectFailed .failedConnect).wp hs fun _ _ _ h => h

include hI in
theorem disconnect_frame : Triple (fun _ s => I s) (disconnect w) (fun _ _ s => I s) := by
  intro c s hs
  simp only [disconnect, wp_bind, wp_get]
  split
  · simp only [wp_bind, wp_notifyWaiters, wp_finish]
    exact hI.forM_reply _ _ hs
  · simp only [wp_bind, wp_setState]
    exact (teardown_frame w hI .requested .disconnect).wp hs fun _ _ _ h => h

include hI in
theorem connect_frame : Triple (fun _ s => I s) (connect w) (fun _ _ s => I s) := by
  intro c s hs
  simp only [connect, wp_bind, wp_get]
  split
  · exact hs
  simp only [wp_bind, wp_modify, wp_modifyView, wp_setState, wp_lift]
  have hc := hI.create ⟨c.started⟩ s hs
  split
  · exact (failConnect_frame w hI _).wp hc fun _ _ _ h => h
  · simp only [wp_bind, wp_modify, wp_modifyView, wp_publish, wp_await]
    exact hI.begin _ _ _ hc

include hI in
theorem endedWhileConnecting_frame :
    Triple (fun _ s => I s) (endedWhileConnecting w) (fun _ _ s => I s) := by
  intro c s hs
  simp only [endedWhileConnecting, wp_bind]
  exact (processPending_frame w hI).wp hs fun _ _ _ h => h

include hI in
theorem resume_frame (wt : Waiting) (r : Except String Unit) :
    Triple (fun _ s => I s) (resume w wt r) (fun _ _ s => I s) := by
  intro c s hs
  simp only [resume, wp_bind, wp_modify]
  rcases wt with id | id | ⟨id, reason, after⟩ <;> rcases r with e | ⟨⟩
  · simp only [wp_bind, wp_isLive]
    split
    · exact (failConnect_frame w hI _).wp hs fun _ _ _ h => h
    · exact (endedWhileConnecting_frame w hI).wp hs fun _ _ _ h => h
  · simp only [wp_bind, wp_isLive]
    split
    · simp only [wp_bind, wp_get, wp_await]
      exact hI.begin _ _ _ hs
    · exact (endedWhileConnecting_frame w hI).wp hs fun _ _ _ h => h
  · simp only [wp_bind, wp_isLive]
    split
    · exact (failConnect_frame w hI _).wp hs fun _ _ _ h => h
    · exact (endedWhileConnecting_frame w hI).wp hs fun _ _ _ h => h
  · simp only [wp_bind]
    exact (processPending_frame w hI).wp hs fun _ _ _ h => h
  · simp only [wp_bind, wp_log]
    exact (releaseSession_frame w hI reason).wp hs fun _ _ _ h =>
      (afterLeave_frame w hI after).wp h fun _ _ _ h => h
  · simp only [wp_bind]
    exact (releaseSession_frame w hI reason).wp hs fun _ _ _ h =>
      (afterLeave_frame w hI after).wp h fun _ _ _ h => h

include hI in
theorem turn_frame : Triple (fun _ s => I s) (turn w) (fun _ _ s => I s) := by
  intro c s hs
  simp only [turn, wp_bind, wp_get]
  split
  · exact hs
  rename_i wt hwt
  simp only [wp_bind, wp_lift, wp_forIn_enqueue]
  have hp := hI.poll s hs
  split
  · simp only [wp_bind]
    exact (resume_frame w hI wt _).wp hp fun _ _ _ h => h
  simp only [wp_bind, wp_get]
  split
  · -- an event is queued: dispatch it, and stop a connect whose session it ended
    simp only [wp_bind, wp_modify]
    refine (dispatch_frame w hI _).wp hp fun _ c' s' h' => ?_
    split
    · simp only [wp_bind, wp_isLive]
      split
      · exact h'
      · simp only [wp_bind, wp_modify]
        exact (endedWhileConnecting_frame w hI).wp h' fun _ _ _ h => h
    · exact h'
  -- nothing is queued: take a request
  simp only [wp_bind, wp_lift]
  have ht := hI.takeCommand _ hp
  split
  · simp only [wp_bind, wp_state, wp_lift, wp_pure]
    exact hI.reply _ _ _ ht
  · simp only [wp_bind, wp_modify]
    split
    · simp only [wp_bind, wp_modify]
      exact (disconnect_frame w hI).wp ht fun _ _ _ h => h
    · exact ht
  · exact ht

include hI in
theorem complete_frame (a : Activity) (st : ConnectionState) :
    Triple (fun _ s => I s) (complete w a st) (fun _ _ s => I s) := by
  intro c s hs
  cases a with
  | serving r => exact hI.reply _ _ _ hs
  | closing => exact hs
  | listening => exact hs

include hI in
theorem proceed_frame (a : Activity) (res : Option ConnectionState) :
    Triple (fun _ s => I s) (proceed w a res) (fun _ _ s => I s) := by
  cases res with
  | some st => exact complete_frame w hI a st
  | none => exact fun _ _ hs => hs

include hI in
theorem serveMove_frame (closed : σ → Bool) (a : Activity) :
    Triple (fun _ s => I s) (serveMove w closed a) (fun _ _ s => I s) :=
  serveMove_triple w closed a
    (fun _ _ _ e _ hs _ => (dispatch_frame w hI e).wp hs fun _ _ _ h => h)
    (fun _ _ s hs _ => hI.takeCommand s hs)
    (fun _ _ _ hs => (connect_frame w hI).wp hs fun res _ _ h => proceed_frame w hI _ res _ _ h)
    (fun _ _ _ hs => (disconnect_frame w hI).wp hs fun res _ _ h => proceed_frame w hI _ res _ _ h)
    (fun _ _ hs => hs) (fun _ => turn_frame w hI) (complete_frame w hI a) (fun _ _ _ _ h => h)

end Frame

end Ctl

/-! ### Ended requests -/

open Http

/-- An ended request shows its controller fairly: an answer to an action offers the actions some
lifecycle state allows. -/
def Outcome.Fair (o : Outcome) : Prop :=
  ∀ s v, o = .response (Response.action s v) →
    ∃ st : ConnectionState, v.connectEnabled = st.canConnect ∧ v.disconnectEnabled = st.canDisconnect

namespace Outcome

theorem fair_state (s : ConnectionState) : (Outcome.state s).Fair := fun _ _ h => by cases h

theorem fair_gone : Outcome.gone.Fair := fun _ _ h => by cases h

theorem fair_unavailable : (Outcome.response Response.unavailable).Fair := fun _ _ h => by
  simp [Response.unavailable, Response.action] at h

theorem fair_answer (q : Request) (v : View) : (Outcome.response (q.answer v)).Fair := by
  intro s v' h
  simp only [Outcome.response.injEq] at h
  unfold Request.answer at h
  rcases hr : q.resolution with r | _ | _ <;> simp only [hr] at h
  · split at h
    · simp [Response.empty, Response.action] at h
    · cases r <;> simp [Route.display, Response.empty, Response.action, View.toJson] at h
  · simp [Response.empty, Response.action] at h
  · simp [Response.empty, Response.action] at h

theorem fair_action (s : ConnectionState) {v : View} (hv : v.Offers) :
    (Outcome.response (Response.action s v)).Fair := by
  intro s' v' h
  simp only [Outcome.response.injEq, Response.action, Response.mk.injEq, Body.json.injEq,
    Json.Value.object.injEq, List.cons.injEq, Prod.mk.injEq, Json.Value.string.injEq,
    Json.Value.bool.injEq, true_and, and_true] at h
  exact ⟨v.connection, h.2.2.1.symm.trans hv.1, h.2.2.2.symm.trans hv.2⟩

theorem fair_abandoned (j : Job) : j.abandoned.Fair := by
  cases j with
  | act a => exact fair_gone
  | serve q => exact fair_unavailable

theorem fair_answered (j : Job) (s : ConnectionState) {v : View} (hv : v.Offers) :
    (j.answered s v).Fair := by
  cases j with
  | act a => exact fair_state s
  | serve q => exact fair_action s hv

end Outcome

namespace Host

def Fair (h : Host) : Prop := ∀ p ∈ h.finished, p.2.Fair

@[simp] theorem finished_setPhase (h : Host) (n : Nat) (p : Phase) :
    (h.setPhase n p).finished = h.finished := rfl

@[simp] theorem finished_wakeRequest (h : Host) (n : Nat) :
    (h.wakeRequest n).finished = h.finished := rfl

@[simp] theorem finished_wakeController (h : Host) : h.wakeController.finished = h.finished := by
  unfold wakeController
  split <;> rfl

theorem fair_of_finished {h h' : Host} (hf : h'.finished = h.finished) (hh : h.Fair) : h'.Fair :=
  fun p hp => hh p (hf ▸ hp)

theorem world_keeps : world.Keeps Fair where
  create _ _ hh := hh
  begin _ _ _ hh := hh
  poll _ hh := hh
  tracks _ _ hh := hh
  sink _ _ hh := hh
  reply _ _ _ hh := hh
  takeCommand h hh := by
    rcases hc : h.channel.take with _ | ⟨c, _ | n, ch⟩
    all_goals
      simp [world, takeCommand, hc]
      exact hh

end Host

/-! ### Every point of a spawned run -/

namespace Runtime

/-- What holds at every point a spawned run passes through: the controller's log, view and
snapshot are as a run leaves them, the view last published by a controller that is gone offers
what its state allows, and every request that ended shows its controller fairly. -/
structure Fair (rt : Runtime) : Prop where
  controller : ∀ c, rt.controller = some c → c.Logged
  lastView : rt.lastView.Offers
  finished : rt.host.Fair

section Fair

variable {rt : Runtime}

theorem Fair.published (h : rt.Fair) : rt.published.Offers := by
  unfold Runtime.published
  split
  · next c hc => exact (h.controller c hc).shows
  · exact h.lastView

theorem Fair.onHost (h : rt.Fair) {f : Host → Host}
    (hf : (f rt.host).finished = rt.host.finished) : (rt.onHost f).Fair :=
  { h with finished := Host.fair_of_finished hf h.finished }

theorem Fair.rest (h : rt.Fair) (sched : Sched) : (rt.rest sched).Fair := h.onHost rfl

theorem Fair.onController {α : Type} {c : Controller} {act : Ctl Host α}
    (hact : Ctl.Triple (fun c h => c.Logged ∧ h.Fair) act (fun _ c h => c.Logged ∧ h.Fair))
    (h : rt.Fair) (hc : c.Logged) : (rt.onController c act).2.Fair := by
  have hr := hact c rt.host ⟨hc, h.finished⟩
  exact ⟨fun c' hc' => by cases hc'; exact hr.1, h.lastView, hr.2⟩

theorem finished_foldl {f : Host → Nat → Host} (hf : ∀ h n, (f h n).finished = h.finished)
    (ns : List Nat) (h : Host) : (ns.foldl f h).finished = h.finished := by
  induction ns generalizing h with
  | nil => rfl
  | cons n ns ih => rw [List.foldl_cons, ih, hf]

/-- Dropping the controller keeps the view it last published, and abandons requests without
ending them. -/
theorem Fair.dropController (h : rt.Fair) : rt.dropController.Fair := by
  unfold Runtime.dropController
  split
  · exact h
  · next c hc =>
    refine ⟨fun _ hc' => (by cases hc'), (h.controller c hc).shows, ?_⟩
    refine Host.fair_of_finished (finished_foldl (fun h n => ?_) _ _) h.finished
    split <;> rfl

theorem Fair.serveController (h : rt.Fair) (fuel : Nat) : (serveController fuel rt).Fair := by
  induction fuel generalizing rt with
  | zero => exact h.rest _
  | succ fuel ih =>
      rcases hctl : rt.controller with _ | c
      · simpa only [Runtime.serveController, hctl] using h
      have hmove : (rt.onController c (Ctl.serveMove Host.world Host.closed rt.activity)).2.Fair :=
        h.onController ((Ctl.serveMove_logged _ _ _).and
          (Ctl.serveMove_frame _ Host.world_keeps _ _)) (h.controller c hctl)
      rcases hrun : rt.onController c (Ctl.serveMove Host.world Host.closed rt.activity) with
        ⟨m, rt'⟩
      rw [hrun] at hmove
      simp only [Runtime.serveController, hctl, hrun]
      rcases m with activity | resumes | _
      · exact ih { hmove with }
      · cases resumes <;> exact hmove.rest _
      · exact hmove.dropController

theorem finished_finish (n : Nat) (o : Outcome) :
    (rt.finish n o).host.finished = rt.host.finished ++ [(n, o)] := by
  unfold Runtime.finish Runtime.onHost
  dsimp only
  split <;> simp

theorem Fair.finish (h : rt.Fair) (n : Nat) {o : Outcome} (ho : o.Fair) : (rt.finish n o).Fair := by
  refine ⟨h.controller, h.lastView, fun p hp => ?_⟩
  rw [finished_finish, List.mem_append, List.mem_singleton] at hp
  rcases hp with hp | rfl
  · exact h.finished p hp
  · exact ho

theorem Fair.offered (h : rt.Fair) (n : Nat) (j : Job) (o : Channel.Offer × Channel Command) :
    (rt.offered n j o).Fair := by
  unfold Runtime.offered
  split
  · exact h.onHost (Host.finished_wakeController _)
  · exact h.onHost rfl
  · exact h.finish n (Outcome.fair_abandoned j)

/-- A request's task ends it only with a fair outcome: an action's answer carries the view
published when the task runs, which offers what its state allows. -/
theorem Fair.runRequest (h : rt.Fair) (n : Nat) : (rt.runRequest n).Fair := by
  unfold Runtime.runRequest
  split
  · exact h
  rename_i t _
  split
  · split
    · exact h.offered ..
    · exact h.finish n (Outcome.fair_answer _ _)
    · exact h
  · split
    · exact h.offered ..
    · exact h
  · exact h.finish n (Outcome.fair_answered _ _ h.published)
  · exact h.finish n (Outcome.fair_abandoned _)
  · exact h

theorem Fair.resumeDeferred (h : rt.Fair) : rt.resumeDeferred.Fair := by
  refine h.onHost ?_
  split
  · exact Host.finished_wakeController _
  · rfl

theorem Fair.settleFrom (h : rt.Fair) (fuel ticks : Nat) : (settleFrom fuel ticks rt).Fair := by
  induction fuel generalizing ticks rt with
  | zero => exact h
  | succ fuel ih =>
      rcases hq : rt.host.queue with _ | ⟨r, later⟩
      · simp only [Runtime.settleFrom, hq]
        split
        · exact ih h.resumeDeferred _
        · exact h
      -- the task at the head of the queue runs: the controller's, or a request's
      have hpop : (rt.onHost fun h => { h with queue := later }).Fair := h.onHost rfl
      simp only [Runtime.settleFrom, hq]
      cases r with
      | controller =>
          have hnext := (hpop.rest .running).serveController controllerTurns
          dsimp only
          split
          · exact ih hnext.resumeDeferred _
          · exact ih hnext _
      | request n =>
          have hnext := hpop.runRequest n
          dsimp only
          split
          · exact ih hnext.resumeDeferred _
          · exact ih hnext _

theorem Fair.startAll (h : rt.Fair) (jobs : List Job) : (rt.startAll jobs).2.Fair := by
  induction jobs generalizing rt with
  | nil => exact h
  | cons j js ih => exact ih (h.onHost rfl)

theorem Fair.perform (h : rt.Fair) (st : SpawnedStep) : (rt.perform st).2.Fair := by
  cases st with
  | request j =>
      simp only [Runtime.perform]
      split
      · simp only [Runtime.start]
        exact h.onHost rfl
      · exact h
  | batch js =>
      simp only [Runtime.perform]
      split
      · exact h.startAll js
      · exact h
  | abort => exact h.dropController
  | shutdown =>
      simp only [Runtime.perform, Runtime.releaseHandle]
      split
      · have h' : ({ rt with driverHandle := false } : Runtime).Fair := { h with }
        refine h'.onHost ?_
        split
        · exact Host.finished_wakeController _
        · rfl
      · exact h
  | emit id e =>
      rcases hctl : rt.controller with _ | c
      · simpa only [Runtime.perform, Runtime.emit, hctl] using h
      · simp only [Runtime.perform, Runtime.emit, hctl]
        have h' : ({ rt with controller := some (c.enqueue ⟨id, e⟩) } : Runtime).Fair :=
          ⟨fun c' hc' => by cases hc'; exact (h.controller c hctl).enqueue _, h.lastView, h.finished⟩
        exact h'.onHost (Host.finished_wakeController _)
  | setTracks id ts =>
      simp only [Runtime.perform]
      exact h.onHost rfl
  | setScript sc =>
      simp only [Runtime.perform]
      exact h.onHost rfl
  | view => exact h

theorem Fair.step (h : rt.Fair) (st : SpawnedStep) : (rt.step st).2.Fair := by
  have hreset : (rt.onHost fun h =>
      { h with scripted := { h.scripted with calls := [], sinkOps := [] }, finished := [] }).Fair :=
    ⟨h.controller, h.lastView, fun _ hp => by cases hp⟩
  exact (hreset.perform st).settleFrom _ _

/-- A request that asked an action and was answered `s` ends, when its task runs, with the state
`s` and the status and offered actions of the view published at that moment. -/
theorem runRequest_answered {n : Nat} {t : Task} {q : Request} {s : ConnectionState}
    (ht : rt.host.tasks[n]? = some t) (hj : t.job = .serve q) (hp : t.phase = .answered s) :
    (rt.runRequest n).host.finished =
      rt.host.finished ++ [(n, .response (Response.action s rt.published))] := by
  unfold Runtime.runRequest
  rw [ht]
  simp only [hp, hj, Job.answered]
  exact finished_finish n _

end Fair

theorem fair_spawn (settings : ControllerSettings) (script : Script) :
    (spawn settings script).Fair :=
  Fair.settleFrom ⟨fun c hc => by cases hc; exact logged_ofSettings settings, ⟨rfl, rfl⟩,
    fun _ hp => by cases hp⟩ _ _

theorem Reachable.fair {rt : Runtime} (hrt : rt.Reachable) : rt.Fair := by
  induction hrt with
  | spawn settings script => exact fair_spawn settings script
  | step st _ ih => exact ih.step st

end Runtime

/-- **An action's answer shows the view published when its task runs again.** Every runtime a
spawned run reaches is fair, and stays fair while it settles; a fair runtime ends a request
answered `s` with `s` and the status and actions of the view then published; and every step
reports actions that some lifecycle state offers. -/
theorem action_answer_shows_view_when_resumed (rt : Runtime) :
    (rt.Reachable → rt.Fair) ∧
    (rt.Fair → (∀ fuel ticks, (Runtime.settleFrom fuel ticks rt).Fair) ∧
      (∀ fuel, (Runtime.serveController fuel rt).Fair) ∧ ∀ n, (rt.runRequest n).Fair) ∧
    (rt.Fair → ∀ (n : Nat) (t : Task) (q : Request) (s : ConnectionState),
      rt.host.tasks[n]? = some t → t.job = .serve q → t.phase = .answered s →
        (rt.runRequest n).host.finished =
          rt.host.finished ++ [(n, .response (Response.action s rt.published))] ∧
        (rt.published.connectEnabled = s.canConnect ∧
            rt.published.disconnectEnabled = s.canDisconnect ↔
          rt.published.connection.canConnect = s.canConnect ∧
            rt.published.connection.canDisconnect = s.canDisconnect)) ∧
    (rt.Reachable → ∀ st : SpawnedStep, (rt.step st).1.view.Offers ∧
      ∀ p ∈ (rt.step st).1.completed, ∀ s v, p.2 = .response (Response.action s v) →
        ∃ st' : ConnectionState,
          v.connectEnabled = st'.canConnect ∧ v.disconnectEnabled = st'.canDisconnect) := by
  refine ⟨fun hrt => hrt.fair, fun h => ⟨h.settleFrom, h.serveController, h.runRequest⟩,
    fun h _ _ _ _ ht hj hp => ⟨Runtime.runRequest_answered ht hj hp, ?_⟩, fun hrt st => ?_⟩
  · -- the published view's flags are its own state's
    rw [h.published.1, h.published.2]
  · -- the report reads the runtime the step settles in
    have h := hrt.fair.step st
    refine ⟨h.published, fun p hp => ?_⟩
    exact h.finished p (List.mem_mergeSort.1 hp)

/-- A freshly spawned controller is fair, and so is the report of a step from it. -/
theorem action_answers_fair_after_spawn :
    (Runtime.spawn {} {}).Reachable ∧ ((Runtime.spawn {} {}).step .view).1.view.Offers :=
  ⟨.spawn {} {}, ((action_answer_shows_view_when_resumed _).2.2.2 (.spawn {} {}) .view).1⟩

/-- Two requests sent together, a connect then a disconnect, to a spawned controller whose
transport reports itself ready once connected: the connect is answered `connecting`, but by the
time its task runs again the disconnect was served, so its answer shows the status and offered
actions of the idle view. The requests are listed in the order they ended. -/
theorem connect_answer_shows_later_view :
    ((Runtime.spawn {} { onConnect := [.transportStateChanged .ready] }).step
        (.batch [.serve ⟨"POST", "/session/connect", "/session/connect"⟩,
          .serve ⟨"POST", "/session/disconnect", "/session/disconnect"⟩])).2.host.finished.map
      (fun p => match p.2 with
        | .response { body := .json v, .. } => (p.1, v.compact)
        | _ => (p.1, "")) =
    [(0, "\x7b\"state\":\"connecting\",\"status\":\"Disconnected\",\"connect_enabled\":true,\"disconnect_enabled\":false\x7d"),
     (1, "\x7b\"state\":\"idle\",\"status\":\"Disconnected\",\"connect_enabled\":true,\"disconnect_enabled\":false\x7d")] := by
  decide +kernel

end VoiceSession
