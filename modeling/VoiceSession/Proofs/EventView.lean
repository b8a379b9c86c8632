import VoiceSession.Proofs.ConnectOutcomes
import VoiceSession.Proofs.Publication
/-!
# What the view shows of a session's events

The transport's phase and the search result are set only by events of the live session and
cleared at its release and at the next creation. At every point of a run they are what the last
such event of the current session reported (`Controller.ShowsHeard`).
-/

namespace VoiceSession

namespace Event

def phase? : Event → Option TransportState
  | .transportStateChanged st => some st
  | _ => none

def response? : Event → Option SearchResponse
  | .searchResponse r => some r
  | _ => none

end Event

/-- What `f` reads off the last envelope of the session `id` among `es` that it reads anything
off. -/
def lastOf {α : Type} (f : Event → Option α) (id : SessionId) (es : List Envelope) : Option α :=
  es.reverse.findSome? fun e => if e.session = id then f e.event else none

section LastOf

variable {α : Type} (f : Event → Option α) (id : SessionId)

@[simp] theorem lastOf_nil : lastOf f id [] = none := rfl

theorem lastOf_append_singleton (es : List Envelope) (e : Envelope) :
    lastOf f id (es ++ [e]) = (if e.session = id then f e.event else none).or (lastOf f id es) := by
  simp only [lastOf, List.reverse_append, List.reverse_singleton, List.singleton_append,
    List.findSome?_cons]
  cases (if e.session = id then f e.event else none) <;> rfl

theorem lastOf_append_of_ne {es : List Envelope} {e : Envelope} (h : e.session ≠ id) :
    lastOf f id (es ++ [e]) = lastOf f id es := by
  simp [lastOf_append_singleton, h]

end LastOf

namespace Controller

/-- The view shows what the live session's events dispatched so far, `popped`, last reported:
its transport phase, and the search result of its last response. -/
def ShowsHeard (popped : List Envelope) (c : Controller) : Prop :=
  ∀ a, c.session = some a → a.tombstoned = false →
    c.view.transportState = lastOf Event.phase? a.id popped ∧
      c.view.searchResult = (lastOf Event.response? a.id popped).map SearchResult.ofResponse

/-- With the session numbered `n` current (or the last one created), the envelopes `since` were
queued since it was created: those not dispatched yet are the queue, and the view shows what the
others reported. -/
def Heard (n : Nat) (since : List Envelope) (c : Controller) : Prop :=
  c.started = n ∧ ∃ popped, since = popped ++ c.inbox ∧ c.ShowsHeard popped

theorem ShowsHeard.of_not_live {c : Controller} (popped : List Envelope)
    (h : ∀ a, c.session = some a → a.tombstoned = true) : c.ShowsHeard popped :=
  fun a ha htomb => by simp [h a ha] at htomb

/-- After an event `e` of the live session `a`, other than its end, the view shows what `e`
reports, and what it showed before otherwise. -/
theorem ShowsHeard.after {c c' : Controller} {popped : List Envelope} {a : Active} {e : Event}
    (h : c.ShowsHeard popped) (ha : c.session = some a) (htomb : a.tombstoned = false)
    (hs : c'.session = c.session) (ht : c'.view.transportState = e.phase?.or c.view.transportState)
    (hr : c'.view.searchResult = (e.response?.map SearchResult.ofResponse).or c.view.searchResult) :
    c'.ShowsHeard (popped ++ [⟨a.id, e⟩]) := by
  intro a' ha' htomb'
  obtain rfl : a = a' := Option.some.inj (ha.symm.trans (hs.symm.trans ha'))
  obtain ⟨ht₀, hr₀⟩ := h a ha htomb
  refine ⟨?_, ?_⟩
  · rw [ht, ht₀, lastOf_append_singleton]
    simp
  · rw [hr, hr₀, lastOf_append_singleton]
    cases e.response? <;> simp

/-- The view keeps showing what it showed when the queue changes and nothing else that is
shown does. -/
theorem Heard.congr {c c' : Controller} {n : Nat} {since : List Envelope} (h : c.Heard n since)
    (hst : c'.started = c.started) (hin : c'.inbox = c.inbox) (hs : c'.session = c.session)
    (ht : c'.view.transportState = c.view.transportState)
    (hr : c'.view.searchResult = c.view.searchResult) : c'.Heard n since := by
  obtain ⟨hn, popped, hsince, hshow⟩ := h
  refine ⟨hst.trans hn, popped, hin ▸ hsince, fun a ha htomb => ?_⟩
  rw [ht, hr]
  exact hshow a (hs ▸ ha) htomb

theorem Heard.gone {c c' : Controller} {n : Nat} {since : List Envelope} (h : c.Heard n since)
    (hst : c'.started = c.started) (hin : c'.inbox = c.inbox)
    (hgone : ∀ a, c'.session = some a → a.tombstoned = true) : c'.Heard n since := by
  obtain ⟨hn, popped, hsince, -⟩ := h
  exact ⟨hst.trans hn, popped, hin ▸ hsince, .of_not_live popped hgone⟩

theorem Heard.current {c : Controller} {n : Nat} {since : List Envelope} (h : c.Heard n since) :
    c.Heard c.started since :=
  ⟨rfl, h.2⟩

theorem Heard.enqueue {c : Controller} {n : Nat} {since : List Envelope} (h : c.Heard n since)
    (es : List Envelope) : { c with inbox := c.inbox ++ es }.Heard n (since ++ es) := by
  obtain ⟨hn, popped, rfl, hshow⟩ := h
  exact ⟨hn, popped, by simp, hshow⟩

/-- The envelopes heard after a step from `c` to `c'`: `since`, or, when the step created a
session, the queue it left. -/
def renewed (c c' : Controller) (since : List Envelope) : List Envelope :=
  if c'.started = c.started then since else c'.inbox

theorem Heard.renewed {c c' : Controller} {since : List Envelope}
    (h : c'.Heard c.started since ∨ c'.Heard (c.started + 1) c'.inbox) :
    c'.Heard c'.started (c.renewed c' since) := by
  rcases h with h | h
  · rw [Controller.renewed, if_pos h.1]
    exact ⟨rfl, h.2⟩
  · have hn : c'.started ≠ c.started := by
      rw [h.1]
      omega
    rw [Controller.renewed, if_neg hn]
    exact ⟨rfl, h.2⟩

/-- What a controller shows of the envelopes `popped` dispatched since its session was created:
what they last reported while the session is live, nothing without a session, and, while no
teardown is awaited, the view it publishes is the one it shows. -/
structure ShowsEvents (popped : List Envelope) (c : Controller) : Prop where
  heard : c.ShowsHeard popped
  idle : c.session = none → c.view.transportState = none ∧ c.view.searchResult = none
  published : c.NotLeaving → c.published = c.view

/-- A consistent controller that publishes as it should shows all of it once it shows what the
live session heard. -/
theorem Consistent.showsEvents {c : Controller} {popped : List Envelope} (hc : c.Consistent)
    (hp : c.Publishes) (h : c.ShowsHeard popped) : c.ShowsEvents popped where
  heard := h
  idle hs :=
    have hclear := hc.cleared (hc.agrees.none_iff.1 hs)
    ⟨hclear.2.1, hclear.2.2.1⟩
  published hn := hp.shown <| by
    rintro ⟨i, reason, hw⟩
    exact hn i reason .failedConnect hw

end Controller

open Controller

namespace Ctl

variable {τ : Type} (w : World τ)

/-- A dispatch adds its envelope to those the view shows the last reports of: an envelope of a
session that is not live changes nothing, and one of the live session sets what it reports. -/
theorem dispatch_showsHeard (e : Envelope) (popped : List Envelope) :
    Triple (fun c _ => c.ShowsHeard popped) (dispatch w e)
      (fun _ c _ => c.ShowsHeard (popped ++ [e])) := by
  intro c s h
  by_cases hlive : c.isLive e.session = true
  swap
  · rw [wp_dispatch_of_not_live w (by simpa using hlive)]
    intro a ha htomb
    have hne : e.session ≠ a.id := fun heq => hlive (isLive_iff.2 ⟨a, ha, heq.symm, htomb⟩)
    rw [lastOf_append_of_ne _ _ hne, lastOf_append_of_ne _ _ hne]
    exact h a ha htomb
  obtain ⟨a, ha, hid, htomb⟩ := isLive_iff.1 hlive
  obtain ⟨id, ev⟩ := e
  simp only at hid
  subst hid
  simp only [dispatch, wp_bind, wp_isLive, hlive, Bool.not_true, Bool.false_eq_true, if_false,
    wp_modify]
  -- the end releases the session; every other event sets at most what it reports
  cases ev
  case disconnected =>
    simp only [wp_bind, wp_releaseSession, wp_setStatus, wp_publish]
    exact .of_not_live _ fun _ h => by simp at h
  case transportStateChanged st =>
    simp only [wp_bind, wp_modifyView, wp_setStatus]
    split
    · simp only [wp_bind, wp_reconcileTracks, wp_publish]
      exact h.after ha htomb rfl rfl rfl
    · simp only [wp_publish]
      exact h.after ha htomb rfl rfl rfl
  case trackStarted t p =>
    dsimp only
    split
    · simp only [wp_bind, wp_useBinder, wp_publish]
      exact h.after ha htomb rfl rfl rfl
    · simp only [wp_publish]
      exact h.after ha htomb rfl rfl rfl
  case userTranscript t =>
    dsimp only
    split
    · simp only [wp_bind, wp_log, wp_publish]
      exact h.after ha htomb rfl rfl rfl
    · simp only [wp_publish]
      exact h.after ha htomb rfl rfl rfl
  case botReady data =>
    simp only [wp_bind, wp_log, wp_reconcileTracks, wp_publish]
    exact h.after ha htomb rfl rfl rfl
  all_goals
    simp only [wp_bind, wp_setState, wp_setStatus, wp_publish, wp_log, wp_modifyView]
    exact h.after ha htomb rfl rfl rfl

theorem dispatch_queue (e : Envelope) (n : Nat) (q : List Envelope) :
    Triple (fun c _ => c.started = n ∧ c.inbox = q) (dispatch w e)
      (fun _ c _ => c.started = n ∧ c.inbox = q) := by
  intro c s h
  simp only [dispatch, wp_bind, wp_isLive]
  cases c.isLive e.session
  · simpa using h
  obtain ⟨id, ev⟩ := e
  cases ev
  case disconnected =>
    simpa only [Bool.not_true, Bool.false_eq_true, if_false, wp_bind, wp_modify, wp_releaseSession,
      wp_setStatus, wp_publish] using h
  all_goals
    simpa only [Bool.not_true, Bool.false_eq_true, if_false, wp_bind, wp_modify, wp_setState,
      wp_setStatus, wp_modifyView, wp_publish, wp_log, wp_useBinder, wp_reconcileTracks, wp_ite,
      ite_self] using h

theorem forIn_dispatch_showsHeard (es popped : List Envelope) (n : Nat) (q : List Envelope) :
    Triple (fun c _ => c.ShowsHeard popped ∧ c.started = n ∧ c.inbox = q)
      (forIn es PUnit.unit fun e _ => do dispatch w e; pure (ForInStep.yield PUnit.unit))
      (fun _ c _ => c.ShowsHeard (popped ++ es) ∧ c.started = n ∧ c.inbox = q) := by
  induction es generalizing popped with
  | nil =>
      intro c s h
      simpa using h
  | cons e es ih =>
      intro c s h
      simp only [List.forIn_cons, wp_bind]
      refine ((dispatch_showsHeard w e popped).and (dispatch_queue w e n q)).wp h
        fun _ c' s' h' => ?_
      simp only [wp_pure]
      exact (ih (popped ++ [e])).wp h' fun _ _ _ h'' => by simpa using h''

variable {n : Nat} {since : List Envelope}

theorem processPending_heard :
    Triple (fun c _ => c.Heard n since) (processPending w) (fun _ c _ => c.Heard n since) := by
  rintro c s ⟨hn, popped, rfl, hshow⟩
  simp only [processPending, wp_bind, wp_get, wp_modify]
  refine (forIn_dispatch_showsHeard w c.inbox popped n []).wp ⟨hshow, hn, rfl⟩ ?_
  rintro _ c' s' ⟨h', hn', hin'⟩
  simp only [wp_pure]
  exact ⟨hn', popped ++ c.inbox, by simp [hin'], h'⟩

/-- Dispatching the event at the head of the queue moves it to those the view shows the last
reports of. -/
theorem dispatch_head_heard {c : Controller} {e : Envelope} {rest : List Envelope} (s : τ)
    (h : c.Heard n since) (hin : c.inbox = e :: rest) :
    wp (dispatch w e) (fun _ c' _ => c'.Heard n since) { c with inbox := rest } s := by
  obtain ⟨hn, popped, rfl, hshow⟩ := h
  refine ((dispatch_showsHeard w e popped).and (dispatch_queue w e n rest)).wp ⟨hshow, hn, rfl⟩ ?_
  rintro _ c' _ ⟨h', hn', hin'⟩
  exact ⟨hn', popped ++ [e], by simp [hin, hin'], h'⟩

theorem releaseSession_heard (reason : SessionEnd) :
    Triple (fun c _ => c.Heard n since) (releaseSession w reason)
      (fun _ c _ => c.Heard n since) := by
  intro c s h
  simp only [releaseSession, wp_bind, wp_modify, wp_useBinder, wp_modifyView, wp_setState,
    wp_notifyWaiters]
  exact h.gone rfl rfl fun _ ha => by simp at ha

theorem afterLeave_heard (after : AfterLeave) :
    Triple (fun c _ => c.Heard n since) (afterLeave w after) (fun _ c _ => c.Heard n since) := by
  intro c s h
  cases after with
  | disconnect =>
      simp only [afterLeave, wp_bind, wp_setStatus]
      refine (processPending_heard w).wp (h.congr rfl rfl rfl rfl rfl) fun _ _ _ h' => ?_
      simp only [wp_bind, wp_publish, wp_finish]
      exact h'.congr rfl rfl rfl rfl rfl
  | failedConnect =>
      simp only [afterLeave, wp_bind]
      refine (processPending_heard w).wp h fun _ _ _ h' => ?_
      simp only [wp_finish]
      exact h'.congr rfl rfl rfl rfl rfl

theorem teardown_heard (reason : SessionEnd) (after : AfterLeave) :
    Triple (fun c _ => c.Heard n since) (teardown w reason after)
      (fun _ c _ => c.Heard n since) := by
  intro c s h
  simp only [teardown, wp_bind, wp_get]
  cases hs : c.session with
  | none =>
      simp only [wp_bind]
      exact (releaseSession_heard w reason).wp h
        fun _ _ _ h' => (afterLeave_heard w after).wp h' fun _ _ _ h'' => h''
  | some a =>
      simp only [wp_bind, wp_modify, wp_await]
      exact h.gone rfl rfl fun a' ha' => by simp only [Option.some.injEq] at ha'; simp [← ha']

theorem failConnect_heard (f : Failure) :
    Triple (fun c _ => c.Heard n since) (failConnect w f) (fun _ c _ => c.Heard n since) := by
  intro c s h
  simp only [failConnect, wp_bind, wp_log, wp_setState, wp_setStatus]
  exact (teardown_heard w .connectFailed .failedConnect).wp (h.congr rfl rfl rfl rfl rfl)
    fun _ _ _ h' => h'

theorem disconnect_heard :
    Triple (fun c _ => c.Heard n since) (disconnect w) (fun _ c _ => c.Heard n since) := by
  intro c s h
  simp only [disconnect, wp_bind, wp_get]
  split
  · simp only [wp_bind, wp_notifyWaiters, wp_finish]
    exact h.congr rfl rfl rfl rfl rfl
  · simp only [wp_bind, wp_setState]
    exact (teardown_heard w .requested .disconnect).wp (h.congr rfl rfl rfl rfl rfl)
      fun _ _ _ h' => h'

theorem endedWhileConnecting_heard :
    Triple (fun c _ => c.Heard n since) (endedWhileConnecting w)
      (fun _ c _ => c.Heard n since) := by
  intro c s h
  simp only [endedWhileConnecting, wp_bind]
  refine (processPending_heard w).wp h fun _ _ _ h' => ?_
  simp only [wp_finish]
  exact h'.congr rfl rfl rfl rfl rfl

theorem resume_heard (wt : Waiting) (r : Except String Unit) :
    Triple (fun c _ => c.Heard n since) (resume w wt r) (fun _ c _ => c.Heard n since) := by
  intro c s h
  -- the call is over, and nothing that is shown depends on what was awaited
  have h' : { c with waiting := none }.Heard n since := h.congr rfl rfl rfl rfl rfl
  simp only [resume, wp_bind, wp_modify]
  rcases wt with id | id | ⟨id, reason, after⟩ <;> rcases r with e | ⟨⟩
  · simp only [wp_bind, wp_isLive]
    split
    · exact (failConnect_heard w _).wp h' fun _ _ _ h => h
    · exact (endedWhileConnecting_heard w).wp h' fun _ _ _ h => h
  · simp only [wp_bind, wp_isLive]
    split
    · simp only [wp_bind, wp_get, wp_await]
      exact h'.congr rfl rfl rfl rfl rfl
    · exact (endedWhileConnecting_heard w).wp h' fun _ _ _ h => h
  · simp only [wp_bind, wp_isLive]
    split
    · exact (failConnect_heard w _).wp h' fun _ _ _ h => h
    · exact (endedWhileConnecting_heard w).wp h' fun _ _ _ h => h
  · simp only [wp_bind]
    refine (processPending_heard w).wp h' fun _ _ _ h => ?_
    simp only [wp_finish]
    exact h.congr rfl rfl rfl rfl rfl
  · simp only [wp_bind, wp_log]
    exact (releaseSession_heard w reason).wp (h'.congr rfl rfl rfl rfl rfl)
      fun _ _ _ h => (afterLeave_heard w after).wp h fun _ _ _ h => h
  · simp only [wp_bind]
    exact (releaseSession_heard w reason).wp h'
      fun _ _ _ h => (afterLeave_heard w after).wp h fun _ _ _ h => h

/-- The envelopes a turn's poll queues: the events it brought, tagged with the session of the
awaited call. -/
def polled (w : World τ) (c : Controller) (s : τ) : List Envelope :=
  match c.waiting with
  | some wt => (w.poll.run s).1.emitted.map fun e => ⟨wt.session, e⟩
  | none => []

theorem turn_heard {c : Controller} {s : τ} (h : c.Heard n since) :
    wp (turn w) (fun _ c' _ => c'.Heard n (since ++ polled w c s)) c s := by
  simp only [turn, wp_bind, wp_get]
  split
  · rename_i hwt
    simpa [polled, hwt] using h
  rename_i wt hwt
  have hpolled : polled w c s = (w.poll.run s).1.emitted.map fun e => ⟨wt.session, e⟩ := by
    simp [polled, hwt]
  rw [hpolled]
  simp only [wp_bind, wp_lift, wp_forIn_enqueue]
  have hq := h.enqueue ((w.poll.run s).1.emitted.map fun e => ⟨wt.session, e⟩)
  split
  · exact (resume_heard w wt _).wp hq fun _ _ _ h => h
  simp only [wp_bind, wp_get]
  split
  · -- the event at the head of the queue is dispatched; a connect whose session it ended stops
    rename_i e rest hin
    simp only [wp_bind, wp_modify]
    have hd := fun s' => dispatch_head_heard w s' hq hin
    refine wp_mono (fun _ c' s' h' => ?_) (hd _)
    split
    · simp only [wp_bind, wp_isLive]
      split
      · exact h'
      · simp only [wp_bind, wp_modify]
        exact (endedWhileConnecting_heard w).wp (h'.congr rfl rfl rfl rfl rfl)
          fun _ _ _ h => h
    · exact h'
  -- nothing is queued: a request is taken
  simp only [wp_bind, wp_lift]
  split
  · simpa using hq
  · simp only [wp_bind, wp_modify]
    split
    · simp only [wp_bind, wp_modify]
      exact (disconnect_heard w).wp (hq.congr rfl rfl rfl rfl rfl) fun _ _ _ h => h
    · exact hq.congr rfl rfl rfl rfl rfl
  · exact hq

/-- A connect keeps what is heard, or, when it creates a session, starts afresh from the queue it
leaves: the new session's view shows neither a transport phase nor a search result. -/
theorem connect_heard {c : Controller} {s : τ} (hc : c.Consistent) (h : c.Heard n since) :
    wp (connect w) (fun _ c' _ => c'.Heard n since ∨ c'.Heard (n + 1) c'.inbox) c s := by
  have hn : c.started = n := h.1
  simp only [connect, wp_bind, wp_get]
  split
  · simpa using Or.inl h
  rename_i hidle
  -- the connect starts from idle: no session, and no transport phase shown
  have hidle' : c.view.connection = .idle := by
    simpa [Controller.state, ConnectionState.canConnect] using hidle
  have hs : c.session = none := hc.agrees.none_iff.2 hidle'
  have ht : c.view.transportState = none := (hc.cleared hidle').2.1
  simp only [wp_bind, wp_modify, wp_modifyView, wp_setState, wp_lift]
  split
  · simp only [wp_failConnect_of_no_session w, hs]
    exact .inr ⟨by simp [tornDown, failing, entered, hn], [], rfl,
      .of_not_live [] fun _ ha => by simp [tornDown] at ha⟩
  · simp only [wp_bind, wp_modify, wp_modifyView, wp_publish, wp_await]
    refine .inr ⟨by simp [hn], [], rfl, fun a ha _ => ?_⟩
    simp only [Option.some.injEq] at ha
    subst ha
    exact ⟨ht, rfl⟩

/-- The envelopes a move of the controller's task queues: a move that takes a turn queues what
the turn's poll brought. -/
def movePolled (w : World τ) (a : Activity) (c : Controller) (s : τ) : List Envelope :=
  match a with
  | .listening => []
  | _ => polled w c s

/-- A move of the task keeps what is heard, adding what a turn's poll queued, or starts afresh
when it connects and creates a session. -/
theorem serveMove_heard (closed : τ → Bool) (a : Activity) {c : Controller} {s : τ}
    (hc : c.Consistent) (h : c.Heard n since) :
    wp (serveMove w closed a) (fun _ c' _ => c'.Heard n (since ++ movePolled w a c s) ∨
      c'.Heard (n + 1) c'.inbox) c s := by
  cases a with
  | listening =>
      simp only [serveMove, wp_bind, wp_get, movePolled, List.append_nil]
      split
      · rename_i e queued hin
        simp only [wp_bind, wp_set]
        exact wp_mono (fun _ _ _ h' => .inl h') (dispatch_head_heard w s h hin)
      simp only [wp_bind, wp_lift]
      -- a request starts an operation, which then answers it or is awaited
      have hdisconnect : ∀ (a' : Activity) (s' : τ), wp (disconnect w) (fun res => wp (proceed w a' res)
          fun _ c' _ => c'.Heard n since ∨ c'.Heard (n + 1) c'.inbox) c s' := fun a' s' =>
        (disconnect_heard w).wp h fun res _ _ h' => proceed_keeps w _ a' res _ _ (.inl h')
      split
      · simp only [wp_bind]
        exact wp_mono (fun res _ _ h' => proceed_keeps w _ _ res _ _ h') (connect_heard w hc h)
      · exact hdisconnect _ _
      · simp only [wp_bind, wp_getWorld]
        split
        · split
          · exact hdisconnect _ _
          · exact .inl h
        · exact .inl h
  | serving _ | closing =>
      -- a busy move takes a turn and completes its operation once the turn finishes it
      simp only [serveMove, wp_bind, movePolled]
      refine wp_mono (fun t c' s' h' => ?_) (turn_heard w h)
      cases t with
      | finished st => exact complete_keeps w _ _ st c' s' (.inl h')
      | continues => exact .inl h'
      | blocked resumes => exact .inl h'

end Ctl

/-! ### Every run -/

namespace DirectRun

variable {σ : Type} (w : World σ)

/-- A direct run with the envelopes queued since its current session was created: a turn adds
those its poll brought, a queued event itself, and a connect that creates a session starts
afresh from the queue it leaves. The steps are those of `Step`. -/
inductive Heard : DirectRun σ → List Envelope → Prop
  | fresh (settings : ControllerSettings) (s : σ) : Heard (fresh settings s) []
  | connect {d : DirectRun σ} {since : List Envelope} : Heard d since → d.caller = .free →
      Heard (d.perform (Ctl.connect w.recorded) Caller.ofOutcome)
        (d.controller.renewed (d.perform (Ctl.connect w.recorded) Caller.ofOutcome).controller since)
  | disconnect {d : DirectRun σ} {since : List Envelope} : Heard d since → d.caller = .free →
      Heard (d.perform (Ctl.disconnect w.recorded) Caller.ofOutcome) since
  | process {d : DirectRun σ} {since : List Envelope} : Heard d since → d.caller = .free →
      Heard (d.perform (Ctl.processPending w.recorded) fun _ => .free) since
  | turn {d : DirectRun σ} {since : List Envelope} : Heard d since → d.caller = .awaiting →
      Heard (d.perform (Ctl.turn w.recorded) Caller.ofTurn)
        (since ++ Ctl.polled w.recorded d.controller (d.world, d.trace))
  | event {d : DirectRun σ} {since : List Envelope} (e : Envelope) : Heard d since →
      Heard { d with controller := d.controller.enqueue e } (since ++ [e])
  | world {d : DirectRun σ} {since : List Envelope} (s : σ) : Heard d since →
      Heard { d with world := s } since

variable {w}

theorem Heard.reachable {d : DirectRun σ} {since : List Envelope} (h : Heard w d since) :
    d.Reachable w := by
  induction h with
  | fresh settings s => exact .fresh settings s
  | connect _ hf ih => exact ih.step (.connect hf)
  | disconnect _ hf ih => exact ih.step (.disconnect hf)
  | process _ hf ih => exact ih.step (.process hf)
  | turn _ ha ih => exact ih.step (.turn ha)
  | event e _ ih => exact ih.step (.event e)
  | world s _ ih => exact ih.step (.world s)

theorem Reachable.heard {d : DirectRun σ} (hd : d.Reachable w) : ∃ since, Heard w d since := by
  induction hd with
  | fresh settings s => exact ⟨[], .fresh settings s⟩
  | step _ hs ih =>
      obtain ⟨since, h⟩ := ih
      cases hs with
      | connect hf => exact ⟨_, h.connect hf⟩
      | disconnect hf => exact ⟨_, h.disconnect hf⟩
      | process hf => exact ⟨_, h.process hf⟩
      | turn ha => exact ⟨_, h.turn ha⟩
      | event e => exact ⟨_, h.event e⟩
      | world s => exact ⟨_, h.world s⟩

theorem heard_perform {α : Type} {d : DirectRun σ} {act : Ctl (σ × List Contact) α}
    {next : α → Caller} {since : List Envelope}
    (h : Ctl.wp act (fun _ c _ => c.Heard c.started since) d.controller (d.world, d.trace)) :
    (d.perform act next).controller.Heard (d.perform act next).controller.started since :=
  h

/-- At every point of a run the view shows what the envelopes heard since the current session
was created last reported. Induction on the run; each step is one operation's lemma. -/
theorem Heard.shows {d : DirectRun σ} {since : List Envelope} (h : Heard w d since) :
    d.controller.Heard d.controller.started since := by
  induction h with
  | fresh settings s =>
      exact ⟨rfl, [], rfl, .of_not_live [] fun _ h => by
        simp [DirectRun.fresh, Controller.ofSettings] at h⟩
  | connect hd _ ih => exact .renewed (Ctl.connect_heard w.recorded hd.reachable.sound.consistent ih)
  | disconnect _ _ ih =>
      exact heard_perform (Ctl.wp_mono (fun _ _ _ h => h.current) (Ctl.disconnect_heard w.recorded _ _ ih))
  | process _ _ ih =>
      exact heard_perform
        (Ctl.wp_mono (fun _ _ _ h => h.current) (Ctl.processPending_heard w.recorded _ _ ih))
  | turn _ _ ih => exact heard_perform (Ctl.wp_mono (fun _ _ _ h => h.current) (Ctl.turn_heard w.recorded ih))
  | event e _ ih => exact ih.enqueue [e]
  | world s _ ih => exact ih

theorem Heard.showsEvents {d : DirectRun σ} {since : List Envelope} (h : Heard w d since) :
    ∃ popped, since = popped ++ d.controller.inbox ∧ d.controller.ShowsEvents popped := by
  obtain ⟨-, popped, hsince, hshow⟩ := h.shows
  exact ⟨popped, hsince, h.reachable.sound.consistent.showsEvents h.reachable.publishes hshow⟩

end DirectRun

namespace ControllerTask

variable {σ : Type} (w : World σ) (closed : σ → Bool)

/-- A run of the controller's task with the envelopes queued since its current session was
created: a move adds those its turn's poll brought, a queued event itself, and a move that
creates a session starts afresh from the queue it leaves. The steps are those of `Step`. -/
inductive Heard : ControllerTask σ → List Envelope → Prop
  | fresh (settings : ControllerSettings) (s : σ) : Heard (fresh settings s) []
  | move {t : ControllerTask σ} {since : List Envelope} : Heard t since → t.running = true →
      Heard (t.move w closed) (t.controller.renewed (t.move w closed).controller
        (since ++ Ctl.movePolled w.recorded t.activity t.controller (t.world, t.trace)))
  | event {t : ControllerTask σ} {since : List Envelope} (e : Envelope) : Heard t since →
      t.running = true → Heard { t with controller := t.controller.enqueue e } (since ++ [e])
  | world {t : ControllerTask σ} {since : List Envelope} (s : σ) : Heard t since →
      Heard { t with world := s } since

variable {w closed}

theorem Heard.reachable {t : ControllerTask σ} {since : List Envelope}
    (h : Heard w closed t since) : t.Reachable w closed := by
  induction h with
  | fresh settings s => exact .fresh settings s
  | move _ hrun ih => exact ih.step (.move hrun)
  | event e _ hrun ih => exact ih.step (.event e hrun)
  | world s _ ih => exact ih.step (.world s)

theorem Reachable.heard {t : ControllerTask σ} (ht : t.Reachable w closed) :
    ∃ since, Heard w closed t since := by
  induction ht with
  | fresh settings s => exact ⟨[], .fresh settings s⟩
  | step _ hs ih =>
      obtain ⟨since, h⟩ := ih
      cases hs with
      | move hrun => exact ⟨_, h.move hrun⟩
      | event e hrun => exact ⟨_, h.event e hrun⟩
      | world s => exact ⟨_, h.world s⟩

/-- At every point of a run of the task the view shows what the envelopes heard since the
current session was created last reported. -/
theorem Heard.shows {t : ControllerTask σ} {since : List Envelope} (h : Heard w closed t since) :
    t.controller.Heard t.controller.started since := by
  induction h with
  | fresh settings s =>
      exact ⟨rfl, [], rfl, .of_not_live [] fun _ h => by
        simp [ControllerTask.fresh, Controller.ofSettings] at h⟩
  | @move t since ht _ ih =>
      refine @move_of_wp σ w closed t (fun t' => t'.controller.Heard t'.controller.started
        (t.controller.renewed t'.controller
          (since ++ Ctl.movePolled w.recorded t.activity t.controller (t.world, t.trace)))) ?_
      refine Ctl.wp_mono ?_ (Ctl.serveMove_heard w.recorded (fun p => closed p.1) _
        ht.reachable.sound.consistent ih)
      intro m c p h'
      cases m <;> exact .renewed h'
  | event e _ _ ih => exact ih.enqueue [e]
  | world s _ ih => exact ih

theorem Heard.showsEvents {t : ControllerTask σ} {since : List Envelope}
    (h : Heard w closed t since) :
    ∃ popped, since = popped ++ t.controller.inbox ∧ t.controller.ShowsEvents popped := by
  obtain ⟨-, popped, hsince, hshow⟩ := h.shows
  exact ⟨popped, hsince, h.reachable.sound.consistent.showsEvents h.reachable.publishes hshow⟩

end ControllerTask

/-- A read of the search path answers with the sections of the search result of the view it is
given, none when there is no result. -/
theorem Http.Request.answer_search (q : Http.Request) (hm : q.method = "GET")
    (hp : q.path = "/session/search") (v : View) : q.answer v = Http.Route.display .search v := by
  have hres : q.resolution = .found .search := by
    rw [Http.Request.resolution, hm, hp]
    decide
  rw [Http.Request.answer, hres]
  simp [hm]

/-- **The view shows the last phase and search result the current session reported.** At every point
of a direct run and of a run of the controller's task, while the session is live, the view's
transport phase and search result are what the last dispatched event of the session reported;
without a session both are empty; and the search path renders the result's sections. -/
theorem view_shows_last_events (σ : Type) (w : World σ) (closed : σ → Bool) :
    (∀ q : Http.Request, q.method = "GET" → q.path = "/session/search" →
      ∀ v, q.answer v = Http.Route.display .search v) ∧
    (∀ d : DirectRun σ, d.Reachable w → ∃ since, DirectRun.Heard w d since) ∧
    (∀ (d : DirectRun σ) since, DirectRun.Heard w d since →
      ∃ popped, since = popped ++ d.controller.inbox ∧ d.controller.ShowsEvents popped) ∧
    (∀ t : ControllerTask σ, t.Reachable w closed → ∃ since, ControllerTask.Heard w closed t since) ∧
    (∀ (t : ControllerTask σ) since, ControllerTask.Heard w closed t since →
      ∃ popped, since = popped ++ t.controller.inbox ∧ t.controller.ShowsEvents popped) :=
  ⟨Http.Request.answer_search, fun _ hd => hd.heard, fun _ _ h => h.showsEvents,
    fun _ ht => ht.heard, fun _ _ h => h.showsEvents⟩

/-- A fresh direct run with scripted transports that starts a connect shows what it heard. -/
theorem connect_run_shows_events :
    ∃ since, DirectRun.Heard Scripted.world ((DirectRun.fresh {} ({} : Scripted)).perform
      (Ctl.connect Scripted.world.recorded) Caller.ofOutcome) since ∧
      ∃ popped, since = popped ++ ((DirectRun.fresh {} ({} : Scripted)).perform
        (Ctl.connect Scripted.world.recorded) Caller.ofOutcome).controller.inbox ∧
        ((DirectRun.fresh {} ({} : Scripted)).perform (Ctl.connect Scripted.world.recorded)
          Caller.ofOutcome).controller.ShowsEvents popped := by
  have hd := @DirectRun.reachable_fresh_connect _ Scripted.world {} ({} : Scripted)
  obtain ⟨since, h⟩ := (view_shows_last_events Scripted Scripted.world fun _ => false).2.1 _ hd
  exact ⟨since, h, (view_shows_last_events Scripted Scripted.world fun _ => false).2.2.1 _ _ h⟩

end VoiceSession
