import VoiceSession.Proofs.Journal
import VoiceSession.Proofs.Restart
/-!
# How a teardown ends

While a teardown waits for its transport's disconnect, nothing shown changes; the turn that finds
the call finished ends in a controller fixed by where the wait began and how the call ended
(`Controller.tornDown`). A failed call differs by one error line.
-/

namespace VoiceSession

open Controller

@[simp] theorem Binder.release_binder (b : Binder) : b.release.binder = {} := by
  unfold Binder.release
  split
  · rfl
  · rename_i h
    cases b
    simp_all

/-- The lines a teardown writes for the way the transport's disconnect ended: one error line if
it failed. -/
def teardownLines : Except String Unit → List Line
  | .ok () => []
  | .error e => [.teardownFailed e]

namespace AfterLeave

def lines : AfterLeave → List Line
  | .disconnect => [.status "Disconnected"]
  | .failedConnect => []

def statuses : AfterLeave → List String
  | .disconnect => ["Disconnected"]
  | .failedConnect => []

/-- The status shown after a teardown: a disconnect shows `Disconnected`, a failed connect keeps
the status it had. -/
def status : AfterLeave → String → String
  | .disconnect, _ => "Disconnected"
  | .failedConnect, s => s

end AfterLeave

namespace Controller

/-- The controller a finished teardown leaves, from `c` as it was when the wait began, once the
transport's disconnect ended as `r`. -/
def tornDown (c : Controller) (reason : SessionEnd) (after : AfterLeave) (r : Except String Unit) :
    Controller :=
  let v : View :=
    { c.view with connection := .idle, connectEnabled := true, disconnectEnabled := false,
                  session := none, transportState := none, searchResult := none,
                  lastEnd := some reason,
                  log := c.view.log ++ (teardownLines r ++ after.lines).map Line.entry,
                  status := after.status c.view.status }
  { c with session := none, binder := {}, waiting := none, waiters := [], inbox := [],
           view := v, published := v, transitions := c.transitions ++ [(c.view.connection, .idle)],
           statusChanges := c.statusChanges ++ after.statuses }

/-- The controller once it entered the state `st`: the view offers the actions `st` allows and
is published. -/
def entered (c : Controller) (st : ConnectionState) : Controller :=
  let v : View :=
    { c.view with connection := st, connectEnabled := st.canConnect, disconnectEnabled := st.canDisconnect }
  { c with view := v, published := v, transitions := c.transitions ++ [(c.view.connection, st)] }

/-- The controller that waits for the transport of the session `a` to disconnect: the session is
tombstoned, so nothing it sends is dispatched any more. -/
def leaving (c : Controller) (a : Active) (reason : SessionEnd) (after : AfterLeave) : Controller :=
  { c with session := some { a with tombstoned := true }, waiting := some (.leaving a.id reason after) }

/-- `c` still waits out the teardown that `c₀` began: it differs from `c₀` only in what is queued
and in the requests waiting. -/
def WaitsOut (c₀ c : Controller) : Prop :=
  ∃ inbox waiters, c = { c₀ with inbox := inbox, waiters := waiters }

theorem WaitsOut.refl (c₀ : Controller) : c₀.WaitsOut c₀ := ⟨c₀.inbox, c₀.waiters, rfl⟩

@[simp] theorem tornDown_leaving (c : Controller) (a : Active) (reason reason' : SessionEnd)
    (after after' : AfterLeave) (r : Except String Unit) :
    (c.leaving a reason after).tornDown reason' after' r = c.tornDown reason' after' r := rfl

/-- A failed disconnect call ends the teardown where a successful one does, but for the one line
that reports the failure, written before what follows the teardown. -/
theorem tornDown_error (c : Controller) (reason : SessionEnd) (after : AfterLeave) (e : String) :
    c.tornDown reason after (.error e) =
      { c.tornDown reason after (.ok ()) with
        view := { (c.tornDown reason after (.ok ())).view with
                  log := c.view.log ++ (Line.teardownFailed e).entry :: after.lines.map Line.entry },
        published := { (c.tornDown reason after (.ok ())).view with
                       log := c.view.log ++ (Line.teardownFailed e).entry :: after.lines.map Line.entry } } :=
  rfl

/-- Nothing of a session is left once it was released as ending for `reason`: no session and
nothing bound, and the view, as published, is idle with no session, transport phase or search
result and with the end recorded. -/
structure Released (reason : SessionEnd) (c : Controller) : Prop where
  session : c.session = none
  unbound : c.binder.bound = none
  idle : c.view.connection = .idle
  unshown : c.view.session = none
  noTransport : c.view.transportState = none
  noSearch : c.view.searchResult = none
  ended : c.view.lastEnd = some reason
  published : c.published = c.view

theorem tornDown_released (c : Controller) (reason : SessionEnd) (after : AfterLeave)
    (r : Except String Unit) : (c.tornDown reason after r).Released reason where
  session := rfl
  unbound := rfl
  idle := rfl
  unshown := rfl
  noTransport := rfl
  noSearch := rfl
  ended := rfl
  published := rfl

/-- After a disconnect's teardown the status is `Disconnected`, and that is the last line of the
log. -/
theorem tornDown_disconnect_status (c : Controller) (reason : SessionEnd) (r : Except String Unit) :
    (c.tornDown reason .disconnect r).view.status = "Disconnected" ∧
      (c.tornDown reason .disconnect r).view.log.getLast? = some (Line.status "Disconnected").entry := by
  refine ⟨rfl, ?_⟩
  simp [tornDown, AfterLeave.lines, List.getLast?_append]

end Controller

namespace Ctl

variable {σ : Type} (w : World σ) {c : Controller} {s : σ}

/-- Releasing the session: it is dropped with the sink, the view goes idle with the end recorded
and is published, and the waiting requests are answered idle. -/
theorem wp_releaseSession (reason : SessionEnd) {Q : Unit → Controller → σ → Prop} :
    wp (releaseSession w reason) Q c s =
      Q () { c with session := none, binder := {}, waiters := [],
                    view := { c.view with searchResult := none, session := none,
                                          transportState := none, lastEnd := some reason,
                                          connection := .idle, connectEnabled := true,
                                          disconnectEnabled := false },
                    published := { c.view with searchResult := none, session := none,
                                               transportState := none, lastEnd := some reason,
                                               connection := .idle, connectEnabled := true,
                                               disconnectEnabled := false },
                    transitions := c.transitions ++ [(c.view.connection, .idle)] }
        ((c.waiters.forM fun r => w.reply r .idle).run ((c.binder.release.ops.forM w.sink).run s).2).2 := by
  simp only [releaseSession, wp_bind, wp_modify, wp_useBinder, wp_modifyView, wp_setState,
    wp_notifyWaiters, Binder.release_binder]
  rfl

/-- With no session, what follows a teardown drops what is queued and finishes in the current
state; a disconnect shows its status first. -/
theorem wp_afterLeave_of_no_session (after : AfterLeave) (hs : c.session = none)
    {Q : Option ConnectionState → Controller → σ → Prop} :
    wp (afterLeave w after) Q c s =
      Q (some c.view.connection)
        { c with view := { c.view with log := c.view.log ++ after.lines.map Line.entry,
                                       status := after.status c.view.status },
                 published := match after with
                   | .disconnect => { c.view with log := c.view.log ++ after.lines.map Line.entry,
                                                  status := after.status c.view.status }
                   | .failedConnect => c.published,
                 inbox := [], waiting := none, statusChanges := c.statusChanges ++ after.statuses } s := by
  cases after with
  | disconnect =>
      simp only [afterLeave, wp_bind, wp_setStatus, wp_processPending_of_no_session w, hs, wp_publish,
        wp_finish]
      rfl
  | failedConnect =>
      simp only [afterLeave, wp_bind, wp_processPending_of_no_session w, hs, wp_finish,
        AfterLeave.lines, AfterLeave.status, AfterLeave.statuses, List.map_nil, List.append_nil]

variable {a : Active} {reason : SessionEnd} {after : AfterLeave} {d : Controller}

/-- A turn while the teardown's call is pending drops a queued event, since its session is
tombstoned, or answers a connect request at once, or adds a disconnect request to those waiting:
the controller still waits out the same teardown. -/
theorem turn_waitsOut_pending {b : Bool} (hd : (c.leaving a reason after).WaitsOut d)
    (hpoll : (w.poll.run s).1.status = .pending b) :
    wp (turn w) (fun t d' _ => t.outcome = none ∧ (c.leaving a reason after).WaitsOut d') d s := by
  obtain ⟨q, ws, rfl⟩ := hd
  simp only [turn, wp_bind, wp_get, leaving, wp_lift, wp_forIn_enqueue, hpoll]
  split
  · simp only [wp_bind, wp_modify, wp_dispatch_of_not_live w, Controller.isLive,
      Bool.not_true, Bool.and_false, Waiting.owner, wp_pure]
    exact ⟨rfl, _, _, rfl⟩
  simp only [wp_bind, wp_lift]
  split
  · simp only [wp_bind, wp_state, wp_lift, wp_pure]
    exact ⟨rfl, _, _, rfl⟩
  · simp only [wp_bind, wp_modify, Waiting.owner, Option.isSome_none, Bool.false_eq_true,
      if_false, wp_pure]
    exact ⟨rfl, _, _, rfl⟩
  · exact ⟨rfl, _, _, rfl⟩

/-- The turn whose poll finds the teardown's call finished as `r` ends it idle, in the controller
that `r` and the controller that began the wait fix; queued events and waiting requests leave no
trace. -/
theorem turn_waitsOut_ready {r : Except String Unit} (hd : (c.leaving a reason after).WaitsOut d)
    (hpoll : (w.poll.run s).1.status = .ready r) :
    wp (turn w) (fun t d' _ => t = .finished .idle ∧ d' = c.tornDown reason after r) d s := by
  obtain ⟨q, ws, rfl⟩ := hd
  simp only [turn, wp_bind, wp_get, leaving, wp_lift, wp_forIn_enqueue, hpoll, resume, wp_modify]
  cases r with
  | error e =>
      simp only [wp_bind, wp_log, wp_releaseSession, wp_afterLeave_of_no_session w,
        List.append_assoc]
      cases after <;> exact ⟨rfl, rfl⟩
  | ok u =>
      simp only [wp_bind, wp_releaseSession, wp_afterLeave_of_no_session w]
      cases after with
      | disconnect => exact ⟨rfl, rfl⟩
      | failedConnect =>
          -- nothing is logged after the release, so what it published is the final view
          simp only [tornDown, teardownLines, AfterLeave.lines, List.append_nil, List.map_nil]
          exact ⟨rfl, rfl⟩

/-- Every turn of a teardown's wait goes on waiting it out, or ends it idle in the controller
fixed by how the transport's disconnect ended. -/
theorem turn_waitsOut (hd : (c.leaving a reason after).WaitsOut d) :
    wp (turn w) (fun t d' _ => t.outcome = none ∧ (c.leaving a reason after).WaitsOut d' ∨
      ∃ st, t = .finished st ∧ st = .idle ∧ ∃ r, d' = c.tornDown reason after r) d s := by
  rcases hp : (w.poll.run s).1.status with r | b
  · refine wp_mono ?_ (turn_waitsOut_ready w hd hp)
    rintro t d' _ ⟨ht, hd'⟩
    exact .inr ⟨.idle, ht, rfl, r, hd'⟩
  · exact wp_mono (fun _ _ _ h => .inl h) (turn_waitsOut_pending w hd hp)

/-- Taking turns until the operation is over, it hangs or the turns run out: when every turn
from a phase `P` goes on in `P` or ends as `E` says, so does the whole wait. Induction on the
turns allowed. -/
theorem runToEnd_of_turns {P : Controller → Prop} {E : ConnectionState → Controller → Prop}
    (hturn : ∀ d s, P d → wp (turn w) (fun t d' _ => t.outcome = none ∧ P d' ∨
      ∃ st, t = .finished st ∧ E st d') d s) (fuel : Nat) :
    ∀ d s, P d → wp (runToEnd w fuel) (fun res d' _ => res = none ∧ P d' ∨
      ∃ st, res = some st ∧ E st d') d s := by
  induction fuel with
  | zero => exact fun d _ hd => .inl ⟨rfl, hd⟩
  | succ fuel ih =>
      intro d s hd
      simp only [runToEnd, wp_bind]
      refine wp_mono ?_ (hturn d s hd)
      rintro t d' s' (⟨ht, hd'⟩ | ⟨st, rfl, he⟩)
      · cases t with
        | finished st => simp [Turn.outcome] at ht
        | continues => exact ih d' s' hd'
        | blocked resumes =>
            cases resumes with
            | true => exact ih d' s' hd'
            | false => exact .inl ⟨rfl, hd'⟩
      · exact .inr ⟨st, rfl, he⟩

variable (a) in
/-- A teardown with a session tombstones it and asks its transport to disconnect, then waits for
that call. -/
theorem wp_teardown_of_session (reason : SessionEnd) (after : AfterLeave) (ha : c.session = some a)
    {Q : Option ConnectionState → Controller → σ → Prop} :
    wp (teardown w reason after) Q c s =
      Q none (c.leaving a reason after) ((w.begin a.id .leave).run s).2 := by
  simp only [teardown, wp_bind, wp_get, ha, wp_modify, wp_await, Waiting.session]
  rfl

/-- A teardown with no session has no transport to call: it ends at once, idle, where a teardown
whose call succeeded ends. -/
theorem wp_teardown_of_no_session (reason : SessionEnd) (after : AfterLeave)
    (hs : c.session = none) {Q : Option ConnectionState → Controller → σ → Prop} :
    wp (teardown w reason after) Q c s =
      Q (some .idle) (c.tornDown reason after (.ok ()))
        ((c.waiters.forM fun r => w.reply r .idle).run ((c.binder.release.ops.forM w.sink).run s).2).2 := by
  simp only [teardown, wp_bind, wp_get, hs, wp_releaseSession, wp_afterLeave_of_no_session w]
  cases after with
  | disconnect => rfl
  | failedConnect =>
      -- nothing is logged after the release, so what it published is the final view
      simp only [tornDown, teardownLines, AfterLeave.lines, List.append_nil, List.map_nil]
      rfl

variable (a) in
/-- A disconnect with a session enters disconnecting, tombstones the session and asks its
transport to disconnect, then waits for that call. -/
theorem wp_disconnect_of_session (ha : c.session = some a)
    {Q : Option ConnectionState → Controller → σ → Prop} :
    wp (disconnect w) Q c s =
      Q none ((c.entered .disconnecting).leaving a .requested .disconnect)
        ((w.begin a.id .leave).run s).2 := by
  have hentered : (c.entered .disconnecting).session = some a := ha
  simp only [disconnect, wp_bind, wp_get, Controller.state, ha, Option.isNone_some,
    Bool.and_false, Bool.false_eq_true, if_false]
  rw [wp_setState]
  exact wp_teardown_of_session w a .requested .disconnect hentered

/-- From a consistent idle point with nothing awaited, a disconnect changes nothing and contacts
nobody: with no session there is no transport to call, and no request waits to be answered. -/
theorem disconnect_of_idle (hc : c.Consistent) (hidle : c.view.connection = .idle)
    (hw : c.waiting = none) : ((disconnect w).run c).run s = ((some .idle, c), s) := by
  have hs : c.session = none := hc.agrees.none_iff.2 hidle
  have hq : c.waiters = [] := (hc.cleared hidle).2.2.2
  show wp (disconnect w) (fun res c' s' => ((res, c'), s') = ((some .idle, c), s)) c s
  simp only [disconnect, wp_bind, wp_get, Controller.state, hidle, hs, beq_self_eq_true,
    Option.isNone_none, Bool.and_self, if_true, wp_notifyWaiters, hq, wp_finish]
  cases c
  simp only at hs hw hq
  subst hs hw hq
  rfl

/-- An awaited disconnect from a session `a`, however many turns it is given, either has not
returned, and still waits out its teardown, or returns idle in the controller fixed by how the
transport's disconnect ended. -/
theorem awaitFor_disconnect_of_session (ha : c.session = some a) (fuel : Nat) :
    wp (awaitFor w fuel (disconnect w))
      (fun res c' _ => res = none ∧ ((c.entered .disconnecting).leaving a .requested .disconnect).WaitsOut c' ∨
        ∃ st, res = some st ∧ st = .idle ∧
          ∃ r, c' = (c.entered .disconnecting).tornDown .requested .disconnect r)
      c s := by
  simp only [awaitFor, wp_bind, wp_disconnect_of_session w a ha]
  exact runToEnd_of_turns w (fun _ _ hd => turn_waitsOut w hd) fuel _ _ (.refl _)

end Ctl

/-- A disconnect from a point between operations changes nothing from idle. Otherwise each turn
while its transport's disconnect is pending changes only the queue and the waiting requests, and
the turn that finds it finished returns idle in a controller fixed by how it ended; a failed call
adds one error line. -/
theorem disconnect_ends_idle (σ : Type) (w : World σ) (c : Controller) (s : σ)
    (hc : c.Consistent) (hw : c.waiting = none) :
    (c.view.connection = .idle → ((Ctl.disconnect w).run c).run s = ((some .idle, c), s)) ∧
    (c.view.connection ≠ .idle → ∃ a, c.session = some a ∧
      Ctl.wp (Ctl.disconnect w) (fun res c₀ _ => res = none ∧
        c₀ = (c.entered .disconnecting).leaving a .requested .disconnect) c s ∧
      (∀ d s', ((c.entered .disconnecting).leaving a .requested .disconnect).WaitsOut d →
        ∀ b, (w.poll.run s').1.status = .pending b →
          Ctl.wp (Ctl.turn w) (fun t d' _ => t.outcome = none ∧
            ((c.entered .disconnecting).leaving a .requested .disconnect).WaitsOut d') d s') ∧
      (∀ d s', ((c.entered .disconnecting).leaving a .requested .disconnect).WaitsOut d →
        ∀ r, (w.poll.run s').1.status = .ready r →
          Ctl.wp (Ctl.turn w) (fun t d' _ => t = .finished .idle ∧
            d' = (c.entered .disconnecting).tornDown .requested .disconnect r) d s') ∧
      ∀ fuel, Ctl.wp (Ctl.awaitFor w fuel (Ctl.disconnect w)) (fun res c' _ => res = none ∨
        ∃ r, res = some .idle ∧ c' = (c.entered .disconnecting).tornDown .requested .disconnect r)
        c s) ∧
    (∀ r, ((c.entered .disconnecting).tornDown .requested .disconnect r).Released .requested ∧
      ((c.entered .disconnecting).tornDown .requested .disconnect r).view.status = "Disconnected" ∧
      ((c.entered .disconnecting).tornDown .requested .disconnect r).view.log.getLast? =
        some (Line.status "Disconnected").entry) ∧
    ∀ e, ∃ extra : LogEntry, extra.category = .error ∧
      extra.text = "Error during disconnect: teardown failed: " ++ (Cause.ofMessage e).describe ∧
      (c.entered .disconnecting).tornDown .requested .disconnect (.error e) =
        let ok := (c.entered .disconnecting).tornDown .requested .disconnect (.ok ())
        { ok with view := { ok.view with log := c.view.log ++ [extra, (Line.status "Disconnected").entry] },
                  published := { ok.view with log := c.view.log ++ [extra, (Line.status "Disconnected").entry] } } := by
  refine ⟨fun hidle => Ctl.disconnect_of_idle w hc hidle hw, fun hbusy => ?_,
    fun r => ⟨tornDown_released _ _ _ r, tornDown_disconnect_status _ _ r⟩,
    fun e => ⟨(Line.teardownFailed e).entry, by simp [Line.category], rfl, tornDown_error _ _ _ e⟩⟩
  -- a controller that is not idle holds a session
  obtain ⟨a, ha⟩ := Option.ne_none_iff_exists'.1 (mt hc.agrees.none_iff.1 hbusy)
  refine ⟨a, ha, ?_, fun d s' hd b hp => Ctl.turn_waitsOut_pending w hd hp,
    fun d s' hd r hp => Ctl.turn_waitsOut_ready w hd hp, fun fuel => ?_⟩
  · rw [Ctl.wp_disconnect_of_session w a ha]
    exact ⟨rfl, rfl⟩
  · refine Ctl.wp_mono ?_ (Ctl.awaitFor_disconnect_of_session w ha fuel)
    rintro res c' _ (⟨rfl, -⟩ | ⟨st, rfl, rfl, r, h⟩)
    · exact .inl rfl
    · exact .inr ⟨r, rfl, h⟩

/-- A fresh controller, idle, is left as it is by a disconnect. -/
theorem disconnect_fresh_unchanged :
    (Controller.ofSettings {}).Consistent ∧ (Controller.ofSettings {}).waiting = none ∧
      (((Ctl.disconnect Scripted.world).run (Controller.ofSettings {})).run {} =
        ((some .idle, Controller.ofSettings {}), {})) :=
  ⟨consistent_ofSettings {}, rfl,
    (disconnect_ends_idle Scripted Scripted.world _ {} (consistent_ofSettings {}) rfl).1 rfl⟩

end VoiceSession
