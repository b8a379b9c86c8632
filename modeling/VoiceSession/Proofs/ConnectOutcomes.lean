import VoiceSession.Proofs.Teardown
import VoiceSession.Proofs.Hosts
/-!
# How a connect ends

`ConnectPhase` says where a connect can stand between turns, `ConnectEnd` how it can end. Each
turn moves a connect from one phase to another or ends it (`turn_connectPhase`), so a connect
awaited for any number of turns answers its own state and ends as `ConnectEnd` says.
-/

namespace VoiceSession

open Controller

namespace Controller

/-- The controller once the failure `f` of a connect step was logged: the state is error and the
status `Error`. -/
def failing (c : Controller) (f : Failure) : Controller :=
  let c₁ := { c with view := { c.view with log := c.view.log ++ [(Line.connectFailed f).entry] } }.entered .error
  { c₁ with view := { c₁.view with log := c₁.view.log ++ [(Line.status "Error").entry], status := "Error" },
             statusChanges := c₁.statusChanges ++ ["Error"] }

def EndedRemotely (c : Controller) : Prop := c.Released .remote ∧ c.view.status = "Disconnected"

/-- Where a connect for the session `id` can stand between turns. -/
inductive ConnectPhase (id : SessionId) : Controller → Prop
  | live {d : Controller} : d.session = some ⟨id, false⟩ →
      d.waiting = some (.devices id) ∨ d.waiting = some (.joining id) → ConnectPhase id d
  | failing {c₀ : Controller} {a : Active} {f : Failure} {d : Controller} :
      f.isConnectFailure = true →
      ((c₀.failing f).leaving a .connectFailed .failedConnect).WaitsOut d → ConnectPhase id d
  | abandoned {c₀ : Controller} {a : Active} {d : Controller} :
      ((c₀.entered .disconnecting).leaving a .requested .disconnect).WaitsOut d → ConnectPhase id d

/-- How a connect for the session `id` can end. -/
inductive ConnectEnd (id : SessionId) : Controller → Prop
  | established {d : Controller} : d.session = some ⟨id, false⟩ → ConnectEnd id d
  | failed {c₀ : Controller} {f : Failure} (r : Except String Unit) : f.isConnectFailure = true →
      ConnectEnd id ((c₀.failing f).tornDown .connectFailed .failedConnect r)
  | remote {d : Controller} : d.EndedRemotely → ConnectEnd id d
  | abandoned {c₀ : Controller} (r : Except String Unit) :
      ConnectEnd id ((c₀.entered .disconnecting).tornDown .requested .disconnect r)

/-- Where a turn of a connect for the session `id` leads: the connect goes on in one of its
phases, or it is over, answering its own state, as a connect ends. -/
def ConnectStep (id : SessionId) (t : Ctl.Turn) (d : Controller) : Prop :=
  t.outcome = none ∧ ConnectPhase id d ∨
    ∃ st, t = .finished st ∧ st = d.view.connection ∧ ConnectEnd id d

/-- A connect that failed ends with the failure recorded and `Error` shown; the log holds the
failure and the status change, then one line if the transport's disconnect failed too. -/
theorem failing_tornDown (c : Controller) (f : Failure) (r : Except String Unit) :
    ((c.failing f).tornDown .connectFailed .failedConnect r).view.lastEnd = some .connectFailed ∧
      ((c.failing f).tornDown .connectFailed .failedConnect r).view.status = "Error" ∧
      ((c.failing f).tornDown .connectFailed .failedConnect r).view.log =
        c.view.log ++ [(Line.connectFailed f).entry, (Line.status "Error").entry] ++
          (teardownLines r).map Line.entry := by
  refine ⟨rfl, rfl, ?_⟩
  simp [tornDown, failing, entered, AfterLeave.lines]

end Controller

namespace Ctl

variable {σ : Type} (w : World σ) {c : Controller} {s : σ}

/-- A failed connect step with a session logs the failure, shows the error and tears the session
down, waiting for its transport to disconnect. -/
theorem wp_failConnect_of_session (f : Failure) (a : Active) (ha : c.session = some a)
    {Q : Option ConnectionState → Controller → σ → Prop} :
    wp (failConnect w f) Q c s =
      Q none ((c.failing f).leaving a .connectFailed .failedConnect) ((w.begin a.id .leave).run s).2 := by
  simp only [failConnect, wp_bind, wp_log, wp_setState, wp_setStatus, teardown, wp_get, ha,
    wp_modify, wp_await, Waiting.session]
  rfl

/-- A failed connect step with no session logs the failure, shows the error and ends at once,
idle. -/
theorem wp_failConnect_of_no_session (f : Failure) (hs : c.session = none)
    {Q : Option ConnectionState → Controller → σ → Prop} :
    wp (failConnect w f) Q c s =
      Q (some .idle) ((c.failing f).tornDown .connectFailed .failedConnect (.ok ()))
        ((c.waiters.forM fun r => w.reply r .idle).run ((c.binder.release.ops.forM w.sink).run s).2).2 := by
  simp only [failConnect, wp_bind, wp_log, wp_setState, wp_setStatus,
    wp_teardown_of_no_session w, hs]
  rfl

theorem dispatch_disconnected {id : SessionId} (hlive : c.isLive id = true) :
    wp (dispatch w ⟨id, .disconnected⟩) (fun _ c' _ => c'.EndedRemotely) c s := by
  simp only [dispatch, wp_bind, wp_isLive, hlive, Bool.not_true, Bool.false_eq_true, if_false,
    wp_modify, wp_releaseSession, wp_setStatus, wp_publish]
  exact ⟨⟨rfl, rfl, rfl, rfl, rfl, rfl, rfl, rfl⟩, rfl⟩

/-- A dispatch while the connect's session `id` is live keeps it live, with what is awaited as
it was, or ends it remotely: only its `disconnected` event releases it. -/
theorem dispatch_connecting (id : SessionId) (hs : c.session = some ⟨id, false⟩) (e : Envelope) :
    wp (dispatch w e)
      (fun _ c' _ => c'.session = some ⟨id, false⟩ ∧ c'.waiting = c.waiting ∨ c'.EndedRemotely) c s := by
  by_cases hlive : c.isLive e.session = true
  · obtain ⟨i, ev⟩ := e
    cases ev
    case disconnected => exact .inr (dispatch_disconnected w hlive)
    -- every other event leaves the session slot and what is awaited alone
    all_goals
      simp only [dispatch, wp_bind, wp_isLive, hlive, Bool.not_true, Bool.false_eq_true, if_false,
        wp_modify, wp_setState, wp_setStatus, wp_modifyView, wp_publish, wp_log, wp_useBinder,
        wp_reconcileTracks, wp_ite]
      simp [hs]
  · rw [wp_dispatch_of_not_live w (by simpa using hlive)]
    exact .inl ⟨hs, rfl⟩

theorem dispatch_live_or_remote {id : SessionId} (e : Envelope) :
    Triple (fun c _ => c.session = some ⟨id, false⟩ ∨ c.EndedRemotely) (dispatch w e)
      (fun _ c _ => c.session = some ⟨id, false⟩ ∨ c.EndedRemotely) := by
  rintro c s (hs | hr)
  · exact wp_mono (fun _ _ _ h => h.imp_left And.left) (dispatch_connecting w _ hs e)
  · rw [wp_dispatch_of_not_live w (by simp [Controller.isLive, hr.1.session])]
    exact .inr hr

/-- Dispatching what is queued while the connect's session `id` is live leaves it live or ended
remotely; once it ended, nothing more is dispatched. -/
theorem processPending_connecting {id : SessionId} :
    Triple (fun c _ => c.session = some ⟨id, false⟩ ∨ c.EndedRemotely) (processPending w)
      (fun _ c _ => c.session = some ⟨id, false⟩ ∨ c.EndedRemotely) := by
  intro c s h
  simp only [processPending, wp_bind, wp_get, wp_modify]
  -- the queue is emptied first, which neither half of the invariant reads
  have h₀ : ({ c with inbox := [] } : Controller).session = some ⟨id, false⟩ ∨
      ({ c with inbox := [] } : Controller).EndedRemotely := by
    rcases h with hs | ⟨hr, hst⟩
    · exact .inl hs
    · exact .inr ⟨{ hr with }, hst⟩
  exact (Triple.forIn fun e _ => dispatch_live_or_remote w e).wp h₀ fun _ _ _ h => h

variable {d : Controller} {id : SessionId}

theorem owned_of_connecting (hwt : d.waiting = some (.devices id) ∨ d.waiting = some (.joining id)) :
    ∃ wt, d.waiting = some wt ∧ wt.owner = some id := by
  rcases hwt with h | h
  · exact ⟨_, h, rfl⟩
  · exact ⟨_, h, rfl⟩

/-- A turn while the connect's call is pending. A queued event is dispatched, and the connect goes
on unless that event ended the session; then it is over, idle. A connect request is answered at
once. A disconnect request interrupts the connect and tears the session down. -/
theorem turn_connecting_pending {b : Bool} (hs : d.session = some ⟨id, false⟩)
    (hwt : d.waiting = some (.devices id) ∨ d.waiting = some (.joining id))
    (hpoll : (w.poll.run s).1.status = .pending b) :
    wp (turn w) (fun t d' _ => ConnectStep id t d') d s := by
  obtain ⟨wt, hw, hown⟩ := owned_of_connecting hwt
  have hwt' : some wt = some (.devices id) ∨ some wt = some (.joining id) := hw ▸ hwt
  simp only [turn, wp_bind, wp_get, hw, wp_lift, wp_forIn_enqueue, hpoll]
  split
  · -- an event is queued: it is dispatched, then the session is looked at
    simp only [wp_bind, wp_modify, hown]
    refine wp_mono ?_ (dispatch_connecting w id ?_ _)
    · rintro _ c' s' (⟨hs', hw'⟩ | ⟨hr, hst⟩)
      · simp only [wp_bind, wp_isLive, Controller.isLive, hs', beq_self_eq_true, Bool.not_false,
          Bool.and_self, if_true, wp_pure]
        exact .inl ⟨rfl, .live hs' (by rw [hw']; exact hwt')⟩
      · have hgone : c'.isLive id = false := by simp [Controller.isLive, hr.session]
        simp (disch := exact hr.session) only [wp_bind, wp_isLive, hgone, Bool.false_eq_true,
          if_false, wp_modify, endedWhileConnecting, wp_processPending_of_no_session w, wp_finish,
          wp_pure, Turn.ofStep]
        exact .inr ⟨_, rfl, rfl, .remote ⟨{ hr with }, hst⟩⟩
    · exact hs
  simp only [wp_bind, wp_lift]
  split
  · -- a connect request is answered with the current state
    simp only [wp_bind, wp_state, wp_lift, wp_pure]
    exact .inl ⟨rfl, .live hs hwt'⟩
  · -- a disconnect request gives the connect up
    simp only [wp_bind, wp_modify, hown, Option.isSome_some, if_true,
      wp_disconnect_of_session w ⟨id, false⟩, hs, wp_pure, Turn.ofStep]
    exact .inl ⟨rfl, .abandoned (.refl _)⟩
  · exact .inl ⟨rfl, .live hs hwt'⟩

/-- While the connect's call is pending, its session's own `disconnected` event at the head of
the queue ends the connect at once: idle, the session ended remotely. -/
theorem turn_connecting_ended {b : Bool} {evs : List Event} {rest : List Envelope}
    (hs : d.session = some ⟨id, false⟩)
    (hwt : d.waiting = some (.devices id) ∨ d.waiting = some (.joining id))
    (hpoll : (w.poll.run s).1 = ⟨evs, .pending b⟩) (hin : d.inbox = ⟨id, .disconnected⟩ :: rest) :
    wp (turn w) (fun t d' _ => t = .finished .idle ∧ d'.EndedRemotely) d s := by
  obtain ⟨wt, hw, hown⟩ := owned_of_connecting hwt
  have hlive : d.isLive id = true := by simp [Controller.isLive, hs]
  simp only [turn, wp_bind, wp_get, hw, wp_lift, wp_forIn_enqueue, hpoll, hin, List.cons_append,
    wp_modify, hown]
  refine wp_mono ?_ (dispatch_disconnected w hlive)
  rintro _ c' s' ⟨hr, hst⟩
  have hgone : c'.isLive id = false := by simp [Controller.isLive, hr.session]
  simp (disch := exact hr.session) only [wp_bind, wp_isLive, hgone, Bool.false_eq_true,
    if_false, wp_modify, endedWhileConnecting, wp_processPending_of_no_session w, wp_finish,
    wp_pure, Turn.ofStep, hr.idle]
  exact ⟨trivial, { hr with }, hst⟩

/-- While the connect's call is pending and nothing is queued, a disconnect request interrupts
the connect: the state becomes disconnecting and the session is torn down. -/
theorem turn_connecting_interrupted {b : Bool} {r : RequestId} (hs : d.session = some ⟨id, false⟩)
    (hwt : d.waiting = some (.devices id) ∨ d.waiting = some (.joining id))
    (hpoll : (w.poll.run s).1 = ⟨[], .pending b⟩) (hin : d.inbox = [])
    (htake : (w.takeCommand.run (w.poll.run s).2).1 = some (.disconnect r)) :
    wp (turn w) (fun t d' _ => t = .continues ∧ ∃ c₀ : Controller,
      d' = (c₀.entered .disconnecting).leaving ⟨id, false⟩ .requested .disconnect) d s := by
  obtain ⟨wt, hw, hown⟩ := owned_of_connecting hwt
  simp only [turn, wp_bind, wp_get, hw, wp_lift, wp_forIn_enqueue, hpoll, List.map_nil,
    List.append_nil, hin, htake, wp_modify, hown, Option.isSome_some, if_true,
    wp_disconnect_of_session w ⟨id, false⟩, hs, wp_pure, Turn.ofStep]
  exact ⟨trivial, _, rfl⟩

theorem turn_devices_ready (hs : d.session = some ⟨id, false⟩)
    (hwt : d.waiting = some (.devices id)) (hpoll : (w.poll.run s).1.status = .ready (.ok ())) :
    wp (turn w) (fun t d' _ => t = .continues ∧ d'.session = some ⟨id, false⟩ ∧
      d'.waiting = some (.joining id)) d s := by
  simp only [turn, wp_bind, wp_get, hwt, wp_lift, wp_forIn_enqueue, hpoll, resume, wp_modify,
    wp_isLive, Controller.isLive, hs, beq_self_eq_true, Bool.not_false, Bool.and_self, if_true,
    wp_await, wp_pure, Turn.ofStep, and_self]

/-- The turn whose poll finds the devices failed, the session still live, logs a device failure
and tears the session down. -/
theorem turn_devices_failed {e : String} (hs : d.session = some ⟨id, false⟩)
    (hwt : d.waiting = some (.devices id)) (hpoll : (w.poll.run s).1.status = .ready (.error e)) :
    wp (turn w) (fun t d' _ => t = .continues ∧ ∃ c₀ : Controller, d' =
      (c₀.failing (.device (Cause.ofMessage e))).leaving ⟨id, false⟩ .connectFailed .failedConnect)
      d s := by
  simp only [turn, wp_bind, wp_get, hwt, wp_lift, wp_forIn_enqueue, hpoll, resume, wp_modify,
    wp_isLive, Controller.isLive, hs, beq_self_eq_true, Bool.not_false, Bool.and_self, if_true,
    wp_failConnect_of_session w _ ⟨id, false⟩, wp_pure, Turn.ofStep]
  exact ⟨trivial, _, rfl⟩

/-- The turn whose poll finds the session established dispatches what is queued and ends the
connect, answering its state. -/
theorem turn_joining_ready (hs : d.session = some ⟨id, false⟩)
    (hwt : d.waiting = some (.joining id)) (hpoll : (w.poll.run s).1.status = .ready (.ok ())) :
    wp (turn w) (fun t d' _ => ∃ st, t = .finished st ∧ st = d'.view.connection ∧ ConnectEnd id d')
      d s := by
  simp only [turn, wp_bind, wp_get, hwt, wp_lift, wp_forIn_enqueue, hpoll, resume, wp_modify]
  refine (processPending_connecting w).wp (.inl hs) fun _ c' s' h => ?_
  simp only [wp_finish, wp_pure, Turn.ofStep]
  rcases h with hl | ⟨hr, hst⟩
  · exact ⟨_, rfl, rfl, .established hl⟩
  · exact ⟨_, rfl, rfl, .remote ⟨{ hr with }, hst⟩⟩

/-- The turn whose poll finds the session's establishment failed, the session still live, logs
a connect failure and tears the session down. -/
theorem turn_joining_failed {e : String} (hs : d.session = some ⟨id, false⟩)
    (hwt : d.waiting = some (.joining id)) (hpoll : (w.poll.run s).1.status = .ready (.error e)) :
    wp (turn w) (fun t d' _ => t = .continues ∧ ∃ c₀ : Controller, d' =
      (c₀.failing (.connect (Cause.ofMessage e))).leaving ⟨id, false⟩ .connectFailed .failedConnect)
      d s := by
  simp only [turn, wp_bind, wp_get, hwt, wp_lift, wp_forIn_enqueue, hpoll, resume, wp_modify,
    wp_isLive, Controller.isLive, hs, beq_self_eq_true, Bool.not_false, Bool.and_self, if_true,
    wp_failConnect_of_session w _ ⟨id, false⟩, wp_pure, Turn.ofStep]
  exact ⟨trivial, _, rfl⟩

theorem turn_connecting (hs : d.session = some ⟨id, false⟩)
    (hwt : d.waiting = some (.devices id) ∨ d.waiting = some (.joining id)) :
    wp (turn w) (fun t d' _ => ConnectStep id t d') d s := by
  rcases hp : (w.poll.run s).1.status with r | b
  · rcases hwt with hwt | hwt
    · cases r with
      | ok u =>
          refine wp_mono ?_ (turn_devices_ready w hs hwt hp)
          rintro t d' _ ⟨ht, hs', hw'⟩
          exact .inl ⟨by simp [ht, Turn.outcome], .live hs' (.inr hw')⟩
      | error e =>
          refine wp_mono ?_ (turn_devices_failed w hs hwt hp)
          rintro t d' _ ⟨ht, _, rfl⟩
          exact .inl ⟨by simp [ht, Turn.outcome], .failing rfl (.refl _)⟩
    · cases r with
      | ok u => exact wp_mono (fun _ _ _ h => .inr h) (turn_joining_ready w hs hwt hp)
      | error e =>
          refine wp_mono ?_ (turn_joining_failed w hs hwt hp)
          rintro t d' _ ⟨ht, _, rfl⟩
          exact .inl ⟨by simp [ht, Turn.outcome], .failing rfl (.refl _)⟩
  · exact turn_connecting_pending w hs hwt hp

theorem turn_connectPhase (h : ConnectPhase id d) :
    wp (turn w) (fun t d' _ => ConnectStep id t d') d s := by
  cases h with
  | live hs hwt => exact turn_connecting w hs hwt
  | failing hf hd =>
      refine wp_mono ?_ (turn_waitsOut w hd)
      rintro t d' _ (⟨ht, hd'⟩ | ⟨st, ht, rfl, r, rfl⟩)
      · exact .inl ⟨ht, .failing hf hd'⟩
      · exact .inr ⟨.idle, ht, rfl, .failed r hf⟩
  | abandoned hd =>
      refine wp_mono ?_ (turn_waitsOut w hd)
      rintro t d' _ (⟨ht, hd'⟩ | ⟨st, ht, rfl, r, rfl⟩)
      · exact .inl ⟨ht, .abandoned hd'⟩
      · exact .inr ⟨.idle, ht, rfl, .abandoned r⟩

/-- A connect from idle whose transport cannot be created logs a connect failure and ends at
once, idle. -/
theorem connect_create_failed {e : String} (hidle : c.view.connection = .idle)
    (hs : c.session = none) (hcreate : ((w.create ⟨c.started⟩).run s).1 = .error e) :
    wp (connect w) (fun res c' _ => res = some .idle ∧ ∃ c₀ : Controller,
      c' = (c₀.failing (.connect (Cause.ofMessage e))).tornDown .connectFailed .failedConnect (.ok ()))
      c s := by
  simp only [connect, wp_bind, wp_get, Controller.state, hidle, ConnectionState.canConnect,
    beq_self_eq_true, Bool.not_true, Bool.false_eq_true, if_false, wp_modify, wp_modifyView,
    wp_setState, wp_lift, hcreate, wp_failConnect_of_no_session w, hs]
  exact ⟨trivial, _, rfl⟩

theorem connect_created (hidle : c.view.connection = .idle)
    (hcreate : ((w.create ⟨c.started⟩).run s).1 = .ok ()) :
    wp (connect w) (fun res c' _ => res = none ∧ c'.session = some ⟨⟨c.started⟩, false⟩ ∧
      c'.waiting = some (.devices ⟨c.started⟩)) c s := by
  simp only [connect, wp_bind, wp_get, Controller.state, hidle, ConnectionState.canConnect,
    beq_self_eq_true, Bool.not_true, Bool.false_eq_true, if_false, wp_modify, wp_modifyView,
    wp_setState, wp_lift, hcreate, wp_publish, wp_await, and_self]

/-- A connect from idle, for the session it numbers, goes on as a connect goes on or ends at once,
failed. -/
theorem connect_connectStep (hidle : c.view.connection = .idle) (hs : c.session = none) :
    wp (connect w) (fun res c' _ => res = none ∧ ConnectPhase ⟨c.started⟩ c' ∨
      ∃ st, res = some st ∧ st = c'.view.connection ∧ ConnectEnd ⟨c.started⟩ c') c s := by
  rcases hcreate : ((w.create ⟨c.started⟩).run s).1 with e | u
  · refine wp_mono ?_ (connect_create_failed w hidle hs hcreate)
    rintro res c' _ ⟨rfl, c₀, rfl⟩
    exact .inr ⟨.idle, rfl, rfl, .failed (.ok ()) rfl⟩
  · refine wp_mono ?_ (connect_created w hidle hcreate)
    rintro res c' _ ⟨hres, hs', hw'⟩
    exact .inl ⟨hres, .live hs' (.inl hw')⟩

/-- A connect from idle that the host awaits either has not returned, and stands in one of its
phases, or answers its own state and ends as a connect ends. -/
theorem awaitFor_connect (hidle : c.view.connection = .idle) (hs : c.session = none) (fuel : Nat) :
    wp (awaitFor w fuel (connect w)) (fun res c' _ => res = none ∧ ConnectPhase ⟨c.started⟩ c' ∨
      ∃ st, res = some st ∧ st = c'.view.connection ∧ ConnectEnd ⟨c.started⟩ c') c s := by
  simp only [awaitFor, wp_bind]
  refine wp_mono ?_ (connect_connectStep w hidle hs)
  rintro res c' s' (⟨rfl, hp⟩ | ⟨st, rfl, hst, he⟩)
  · exact runToEnd_of_turns w (fun _ _ h => turn_connectPhase w h) fuel c' s' hp
  · exact .inr ⟨st, rfl, hst, he⟩

end Ctl

namespace Controller

/-- What a connect answers is connecting or connected while its session is live, and idle
exactly when the session is gone; never error or disconnecting. -/
theorem ConnectEnd.answer {id : SessionId} {d : Controller} (h : ConnectEnd id d)
    (hc : d.Consistent) :
    (d.view.connection = .connecting ∨ d.view.connection = .connected ∨
      d.view.connection = .idle) ∧ (d.view.connection = .idle ↔ d.session = none) := by
  refine ⟨?_, hc.agrees.none_iff.symm⟩
  cases h with
  | established hs =>
      have hag : Agrees (some ⟨id, false⟩) d.view.connection := hs ▸ hc.agrees
      rcases hag.live rfl with h | h
      · exact .inl h
      · exact .inr (.inl h)
  | failed r _ => exact .inr (.inr rfl)
  | remote hr => exact .inr (.inr hr.1.idle)
  | abandoned r => exact .inr (.inr rfl)

end Controller

/-- A connect from a consistent point. Unless idle it changes nothing. From idle, awaited for any
number of turns, it answers, once it answers, the state it ends in: connecting or connected with
its session live, or idle with its session gone because a step failed, the session's own end was
dispatched, or a disconnect request interrupted it. -/
theorem connect_outcomes (σ : Type) (w : World σ) (c : Controller) (s : σ) (hc : c.Consistent) :
    (c.view.connection ≠ .idle →
      ((Ctl.connect w).run c).run s = ((some c.view.connection, c), s)) ∧
    (c.view.connection = .idle →
      (∀ fuel, Ctl.wp (Ctl.awaitFor w fuel (Ctl.connect w)) (fun res c' _ => res = none ∨
        ∃ st, res = some st ∧ st = c'.view.connection ∧
          (st = .connecting ∨ st = .connected ∨ st = .idle) ∧
          (st = .idle ↔ c'.session = none) ∧ ConnectEnd ⟨c.started⟩ c') c s) ∧
      ∀ e, ((w.create ⟨c.started⟩).run s).1 = .error e →
        Ctl.wp (Ctl.connect w) (fun res c' _ => res = some .idle ∧ ∃ c₀ : Controller,
          c' = (c₀.failing (.connect (Cause.ofMessage e))).tornDown .connectFailed .failedConnect
            (.ok ())) c s) ∧
    (∀ (id : SessionId) (d : Controller) (s' : σ), d.session = some ⟨id, false⟩ →
      (d.waiting = some (.devices id) → ∀ e, (w.poll.run s').1.status = .ready (.error e) →
        Ctl.wp (Ctl.turn w) (fun t d' _ => t = .continues ∧ ∃ c₀ : Controller,
          d' = (c₀.failing (.device (Cause.ofMessage e))).leaving ⟨id, false⟩ .connectFailed
            .failedConnect) d s') ∧
      (d.waiting = some (.joining id) → ∀ e, (w.poll.run s').1.status = .ready (.error e) →
        Ctl.wp (Ctl.turn w) (fun t d' _ => t = .continues ∧ ∃ c₀ : Controller,
          d' = (c₀.failing (.connect (Cause.ofMessage e))).leaving ⟨id, false⟩ .connectFailed
            .failedConnect) d s') ∧
      (d.waiting = some (.devices id) ∨ d.waiting = some (.joining id) →
        (∀ b evs rest, (w.poll.run s').1 = ⟨evs, .pending b⟩ →
          d.inbox = ⟨id, .disconnected⟩ :: rest →
          Ctl.wp (Ctl.turn w) (fun t d' _ => t = .finished .idle ∧ d'.EndedRemotely) d s') ∧
        ∀ b r, (w.poll.run s').1 = ⟨[], .pending b⟩ → d.inbox = [] →
          (w.takeCommand.run (w.poll.run s').2).1 = some (.disconnect r) →
          Ctl.wp (Ctl.turn w) (fun t d' _ => t = .continues ∧ ∃ c₀ : Controller,
            d' = (c₀.entered .disconnecting).leaving ⟨id, false⟩ .requested .disconnect) d s')) ∧
    (∀ (c₀ : Controller) (f : Failure) (r : Except String Unit),
      ((c₀.failing f).tornDown .connectFailed .failedConnect r).view.lastEnd = some .connectFailed ∧
      ((c₀.failing f).tornDown .connectFailed .failedConnect r).view.status = "Error" ∧
      ((c₀.failing f).tornDown .connectFailed .failedConnect r).view.log =
        c₀.view.log ++ [(Line.connectFailed f).entry, (Line.status "Error").entry] ++
          (teardownLines r).map Line.entry) ∧
    (∀ d : Controller, d.EndedRemotely →
      d.view.lastEnd = some .remote ∧ d.view.status = "Disconnected") ∧
    ∀ (c₀ : Controller) (r : Except String Unit),
      ((c₀.entered .disconnecting).tornDown .requested .disconnect r).view.lastEnd = some .requested := by
  refine ⟨fun hbusy => ?_, fun hidle => ?_, fun id d s' hs => ?_, failing_tornDown,
    fun d hd => ⟨hd.1.ended, hd.2⟩, fun c₀ r => (tornDown_released c₀ .requested .disconnect r).ended⟩
  · show Ctl.wp (Ctl.connect w) (fun res c' s' => ((res, c'), s') = ((some c.view.connection, c), s)) c s
    rw [Ctl.wp_connect_of_not_idle w hbusy]
  · -- an idle controller holds no session, and the controller it ends in is consistent
    have hs : c.session = none := hc.agrees.none_iff.2 hidle
    refine ⟨fun fuel => ?_, fun e he => Ctl.connect_create_failed w hidle hs he⟩
    refine Ctl.wp_mono ?_ (Ctl.wp_and (Ctl.awaitFor_connect w hidle hs fuel)
      ((Ctl.awaitFor_consistent w (Ctl.connect_consistent w) fuel) c s hc))
    rintro res c' _ ⟨⟨rfl, -⟩ | ⟨st, rfl, rfl, he⟩, hc'⟩
    · exact .inl rfl
    · exact .inr ⟨_, rfl, rfl, (he.answer hc').1, (he.answer hc').2, he⟩
  · refine ⟨fun hwt e hp => Ctl.turn_devices_failed w hs hwt hp,
      fun hwt e hp => Ctl.turn_joining_failed w hs hwt hp, fun hwt => ⟨?_, ?_⟩⟩
    · exact fun b evs rest hp hin => Ctl.turn_connecting_ended w hs hwt hp hin
    · exact fun b r hp hin htake => Ctl.turn_connecting_interrupted w hs hwt hp hin htake

/-- A fresh controller, idle and consistent, answers a connect as a connect from idle answers. -/
theorem connect_fresh_answers :
    (Controller.ofSettings {}).Consistent ∧
      Ctl.wp (Ctl.await? Scripted.world (Ctl.connect Scripted.world)) (fun res c' _ => res = none ∨
        ∃ st, res = some st ∧ st = c'.view.connection ∧
          (st = .connecting ∨ st = .connected ∨ st = .idle) ∧ (st = .idle ↔ c'.session = none) ∧
          ConnectEnd ⟨0⟩ c') (Controller.ofSettings {}) {} :=
  ⟨consistent_ofSettings {},
    ((connect_outcomes Scripted Scripted.world _ {} (consistent_ofSettings {})).2.1 rfl).1 turnLimit⟩

end VoiceSession
