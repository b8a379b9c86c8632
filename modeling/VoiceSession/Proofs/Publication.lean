import VoiceSession.Proofs.Serving
import VoiceSession.Proofs.DirectRuns
/-!
# What subscribers see

A dispatch for the live session, and every connect and disconnect on each of its ways out, ends
with the view published, so the state an operation returns is the published one. The lifecycle
state is published at every point (`Controller.Publishes`).
-/

namespace VoiceSession

namespace Controller

def FailingTeardown (c : Controller) : Prop :=
  ∃ id reason, c.waiting = some (.leaving id reason .failedConnect)

/-- What subscribers see: the lifecycle state always, and the whole view except while a failed
connect is torn down. -/
structure Publishes (c : Controller) : Prop where
  connection : c.published.connection = c.view.connection
  current : c.published = c.view ∨ c.FailingTeardown

theorem Publishes.of_shown {c : Controller} (h : c.published = c.view) : c.Publishes :=
  ⟨by rw [h], .inl h⟩

theorem Publishes.shown {c : Controller} (h : c.Publishes) (hw : ¬c.FailingTeardown) :
    c.published = c.view :=
  h.current.resolve_right hw

theorem Publishes.congr {c c' : Controller} (h : c.Publishes) (hp : c'.published = c.published)
    (hv : c'.view = c.view) (hw : c'.waiting = c.waiting) : c'.Publishes where
  connection := by rw [hp, hv, h.connection]
  current := by
    rw [hp, hv]
    refine h.current.imp_right ?_
    rintro ⟨id, reason, hf⟩
    exact ⟨id, reason, hw.trans hf⟩

theorem not_failingTeardown_of_none {c : Controller} (h : c.waiting = none) :
    ¬c.FailingTeardown := by
  rintro ⟨_, _, hw⟩
  simp [h] at hw

/-- Where an operation leaves subscribers: once it returned `st`, its view, in state `st`, is
published; while it awaits a call, the controller publishes as `Publishes` says. -/
def Shown : Option ConnectionState → Controller → Prop
  | some st, c => c.published = c.view ∧ st = c.view.connection
  | none, c => c.Publishes

theorem Shown.publishes {res : Option ConnectionState} {c : Controller} (h : Shown res c) :
    c.Publishes := by
  cases res with
  | some st => exact .of_shown h.1
  | none => exact h

end Controller

open Controller

namespace Ctl

variable {σ : Type} (w : World σ)

theorem wp_of_forall {α : Type} {x : Ctl σ α} {Q : α → Controller → σ → Prop} {c : Controller}
    {s : σ} (h : ∀ a c s, Q a c s) : wp x Q c s :=
  h _ _ _

/-! ### Dispatching -/

theorem dispatch_shows (e : Envelope) :
    Triple (fun c _ => c.isLive e.session = true) (dispatch w e)
      (fun _ c _ => c.published = c.view) := by
  rintro c s hlive
  obtain ⟨id, ev⟩ := e
  simp only at hlive
  simp only [dispatch, wp_bind, wp_isLive, hlive, Bool.not_true, Bool.false_eq_true, if_false,
    wp_modify]
  -- whatever the handler of the event did, the publication that ends the dispatch follows it
  cases ev
  case disconnected =>
    simp only [wp_bind]
    exact wp_of_forall fun _ _ _ => by simp only [wp_bind, wp_setStatus, wp_publish]
  all_goals simp only [wp_bind, wp_setState, wp_setStatus, wp_publish, wp_log, wp_modifyView,
    wp_useBinder, wp_reconcileTracks, wp_ite, ite_self]

theorem dispatch_same_or_shown (e : Envelope) (c₀ : Controller) :
    Triple (fun c _ => c = c₀) (dispatch w e) (fun _ c _ => c = c₀ ∨ c.published = c.view) := by
  rintro c s rfl
  cases hlive : c.isLive e.session
  · rw [wp_dispatch_of_not_live w hlive]
    exact .inl rfl
  · exact (dispatch_shows w e).wp hlive fun _ _ _ h => .inr h

theorem dispatch_keeps_shown (e : Envelope) :
    Triple (fun c _ => c.published = c.view) (dispatch w e) (fun _ c _ => c.published = c.view) :=
  fun c _ h => (dispatch_same_or_shown w e c).wp rfl fun _ _ _ h' => h'.elim (· ▸ h) id

theorem dispatch_publishes (e : Envelope) :
    Triple (fun c _ => c.Publishes) (dispatch w e) (fun _ c _ => c.Publishes) :=
  fun c _ h => (dispatch_same_or_shown w e c).wp rfl fun _ _ _ h' => h'.elim (· ▸ h) .of_shown

theorem processPending_shown :
    Triple (fun c _ => c.published = c.view) (processPending w)
      (fun _ c _ => c.published = c.view) := by
  intro c s h
  simp only [processPending, wp_bind, wp_get, wp_modify]
  exact (Triple.forIn fun e _ => dispatch_keeps_shown w e).wp h fun _ _ _ h => h

/-! ### The operations, on each of their ways out -/

theorem releaseSession_shows (reason : SessionEnd) :
    Triple (fun _ _ => True) (releaseSession w reason)
      (fun _ c _ => c.published = c.view ∧ c.view.connection = .idle) := by
  intro c s _
  simp only [releaseSession, wp_bind, wp_modify, wp_useBinder, wp_modifyView, wp_setState,
    wp_notifyWaiters, and_self]

theorem afterLeave_shown (after : AfterLeave) :
    Triple (fun c _ => c.published = c.view) (afterLeave w after) (fun res c _ => Shown res c) := by
  intro c s h
  cases after with
  | disconnect =>
      -- the status `Disconnected` goes out with the publication that ends a disconnect, whatever
      -- the queued events did
      simp only [afterLeave, wp_bind, wp_setStatus]
      exact wp_of_forall fun _ c' _ => by
        simp only [wp_bind, wp_publish, wp_finish]
        exact ⟨rfl, rfl⟩
  | failedConnect =>
      simp only [afterLeave, wp_bind]
      exact (processPending_shown w).wp h fun _ _ _ h => by
        simp only [wp_finish]
        exact ⟨h, rfl⟩

/-- A teardown either awaits the transport's disconnect, publishing as before, or, with no
session, releases and finishes published. Only a failed connect may enter it with its status and
log line unpublished. -/
theorem teardown_shown (reason : SessionEnd) (after : AfterLeave) :
    Triple (fun c _ => c.published.connection = c.view.connection ∧
        (c.published = c.view ∨ after = .failedConnect))
      (teardown w reason after) (fun res c _ => Shown res c) := by
  rintro c s ⟨hconn, hcur⟩
  simp only [teardown, wp_bind, wp_get]
  cases hs : c.session with
  | none =>
      simp only [wp_bind]
      exact (releaseSession_shows w reason).wp trivial fun _ _ _ h =>
        (afterLeave_shown w after).wp h.1 fun _ _ _ h => h
  | some a =>
      -- tombstoning the session and starting its disconnect change nothing subscribers see
      simp only [wp_bind, wp_modify, wp_await]
      exact ⟨hconn, hcur.imp_right fun hafter => ⟨a.id, reason, by rw [hafter]⟩⟩

theorem failConnect_shown (f : Failure) :
    Triple (fun _ _ => True) (failConnect w f) (fun res c _ => Shown res c) := by
  intro c s _
  simp only [failConnect, wp_bind, wp_log, wp_setState, wp_setStatus]
  -- the error state is published; the status `Error` and the log line wait for the release
  exact (teardown_shown w .connectFailed .failedConnect).wp ⟨rfl, .inr rfl⟩ fun _ _ _ h => h

theorem disconnect_shown :
    Triple (fun c _ => c.published = c.view) (disconnect w) (fun res c _ => Shown res c) := by
  intro c s h
  simp only [disconnect, wp_bind, wp_get]
  split
  · simp only [wp_bind, wp_notifyWaiters, wp_finish]
    exact ⟨h, rfl⟩
  · simp only [wp_bind, wp_setState]
    exact (teardown_shown w .requested .disconnect).wp ⟨rfl, .inl rfl⟩ fun _ _ _ h => h

theorem connect_shown :
    Triple (fun c _ => c.published = c.view) (connect w) (fun res c _ => Shown res c) := by
  intro c s h
  simp only [connect, wp_bind, wp_get]
  split
  · exact ⟨h, rfl⟩
  simp only [wp_bind, wp_modify, wp_modifyView, wp_setState, wp_lift]
  split
  · exact (failConnect_shown w _).wp trivial fun _ _ _ h => h
  · simp only [wp_bind, wp_modify, wp_modifyView, wp_publish, wp_await]
    exact .of_shown rfl

theorem endedWhileConnecting_shown :
    Triple (fun c _ => c.published = c.view) (endedWhileConnecting w)
      (fun res c _ => Shown res c) := by
  intro c s h
  simp only [endedWhileConnecting, wp_bind]
  exact (processPending_shown w).wp h fun _ _ _ h => by
    simp only [wp_finish]
    exact ⟨h, rfl⟩

/-- Going on from a finished call: a connect's call is awaited with the view published, and only
the teardown of a failed connect may have left it unpublished, which its release publishes. -/
theorem resume_shown (wt : Waiting) (r : Except String Unit) :
    Triple (fun c _ => c.published.connection = c.view.connection ∧
        (c.published = c.view ∨ ∃ id reason, wt = .leaving id reason .failedConnect))
      (resume w wt r) (fun res c _ => Shown res c) := by
  rintro c s ⟨hconn, hcur⟩
  simp only [resume, wp_bind, wp_modify]
  rcases wt with id | id | ⟨id, reason, after⟩
  · have h : c.published = c.view := hcur.resolve_right (by simp)
    rcases r with e | ⟨⟩ <;> simp only [wp_bind, wp_isLive] <;> split
    · exact (failConnect_shown w _).wp trivial fun _ _ _ h => h
    · exact (endedWhileConnecting_shown w).wp h fun _ _ _ h => h
    · simp only [wp_bind, wp_get, wp_await]
      exact .of_shown h
    · exact (endedWhileConnecting_shown w).wp h fun _ _ _ h => h
  · have h : c.published = c.view := hcur.resolve_right (by simp)
    rcases r with e | ⟨⟩
    · simp only [wp_bind, wp_isLive]
      split
      · exact (failConnect_shown w _).wp trivial fun _ _ _ h => h
      · exact (endedWhileConnecting_shown w).wp h fun _ _ _ h => h
    · simp only [wp_bind]
      exact (processPending_shown w).wp h fun _ _ _ h => by
        simp only [wp_finish]
        exact ⟨h, rfl⟩
  · -- the teardown is over: the release publishes whatever was left
    rcases r with e | ⟨⟩ <;> simp only [wp_bind, wp_log] <;>
      exact (releaseSession_shows w reason).wp trivial fun _ _ _ h =>
        (afterLeave_shown w after).wp h.1 fun _ _ _ h => h

/-- A turn of waiting keeps the lifecycle state published, and the view too unless a failed
connect is torn down; a turn that finds the operation over returns the state of its view, which
is published. -/
theorem turn_shown :
    Triple (fun c _ => c.Publishes) (turn w) (fun t c _ => Shown t.outcome c) := by
  intro c s hc
  simp only [turn, wp_bind, wp_get]
  split
  · rename_i hwt
    exact ⟨hc.shown (not_failingTeardown_of_none hwt), rfl⟩
  rename_i wt hwt
  -- a connect's call is awaited with the view published
  have howned : ∀ id, wt.owner = some id → c.published = c.view := by
    intro id hown
    refine hc.shown ?_
    rintro ⟨_, _, hw⟩
    rw [hwt] at hw
    cases hw
    simp [Waiting.owner] at hown
  simp only [wp_bind, wp_lift, wp_forIn_enqueue]
  split
  · simp only [wp_bind]
    refine (resume_shown w wt _).wp ⟨hc.connection, hc.current.imp_right ?_⟩
      fun _ _ _ h => by simpa using h
    rintro ⟨id, reason, hw⟩
    exact ⟨id, reason, Option.some.inj (hwt.symm.trans hw)⟩
  simp only [wp_bind, wp_get]
  split
  · -- an event is queued: it is dispatched, and a connect whose session it ended is over
    simp only [wp_bind, wp_modify]
    split
    · rename_i id hown
      refine (dispatch_keeps_shown w _).wp (howned id hown) fun _ c' _ h' => ?_
      simp only [wp_bind, wp_isLive]
      split
      · exact .of_shown h'
      · simp only [wp_bind, wp_modify]
        exact (endedWhileConnecting_shown w).wp h' fun _ _ _ h => by simpa using h
    · exact (dispatch_publishes w _).wp (hc.congr rfl rfl rfl) fun _ _ _ h' => h'
  -- nothing is queued: a request is taken
  simp only [wp_bind, wp_lift]
  split
  · simp only [wp_bind, wp_state, wp_lift, wp_pure]
    exact hc.congr rfl rfl rfl
  · simp only [wp_bind, wp_modify]
    split
    · rename_i hown
      obtain ⟨id, hid⟩ := Option.isSome_iff_exists.1 hown
      simp only [wp_bind, wp_modify]
      exact (disconnect_shown w).wp (howned id hid) fun _ _ _ h => by simpa using h
    · simp only [wp_pure]
      exact hc.congr rfl rfl rfl
  · simp only [wp_pure]
    exact hc.congr rfl rfl rfl

/-! ### The controller's task -/

theorem complete_keeps (P : Controller → Prop) (a : Activity) (st : ConnectionState) :
    Triple (fun c _ => P c) (complete w a st) (fun _ c _ => P c) := by
  intro c s h
  cases a <;> exact h

theorem proceed_keeps (P : Controller → Prop) (a : Activity) (res : Option ConnectionState) :
    Triple (fun c _ => P c) (proceed w a res) (fun _ c _ => P c) := by
  cases res with
  | some st => exact complete_keeps w P a st
  | none => exact fun _ _ h => h

/-- A move of the task keeps the lifecycle state published, and between operations the whole
view. -/
theorem serveMove_publishes (closed : σ → Bool) (a : Activity) :
    Triple (fun c _ => c.Publishes ∧ (a = .listening → c.waiting = none))
      (serveMove w closed a) (fun _ c _ => c.Publishes) :=
  -- between operations nothing is awaited, so the view itself is published
  have hshown (hl : a = .listening) (c : Controller)
      (h : c.Publishes ∧ (a = .listening → c.waiting = none)) : c.published = c.view :=
    h.1.shown (not_failingTeardown_of_none (h.2 hl))
  @serveMove_triple _ w _ (fun c _ => c.published = c.view) _ (fun _ c _ => c.Publishes) closed a
    (fun hl c _ e _ h _ => (dispatch_keeps_shown w e).wp (hshown hl c h) fun _ _ _ h => .of_shown h)
    (fun hl c _ h _ => hshown hl c h)
    (fun _ _ _ h => (connect_shown w).wp h fun res _ _ h' =>
      proceed_keeps w _ _ res _ _ h'.publishes)
    (fun _ _ _ h => (disconnect_shown w).wp h fun res _ _ h' =>
      proceed_keeps w _ _ res _ _ h'.publishes)
    (fun _ _ h => .of_shown h)
    (fun _ => (turn_shown w).mono (fun _ _ h => h.1) fun _ _ _ h => h.publishes)
    (complete_keeps w _ a) (fun _ _ _ _ h => h)

end Ctl

/-! ### Answers carry the published state

Every request is answered with the controller's state at that moment. Within an operation the
state does not change after an answer: waiting requests are answered when the session is
released, and nothing that follows a release in the same operation touches the state. So every
request answered during an operation got the state the operation leaves, which is published. -/

def Unanswered (tr₀ tr : List Contact) : Prop :=
  ∃ new, tr = tr₀ ++ new ∧ ∀ r st, Contact.reply r st ∉ new

def AnsweredWith (tr₀ : List Contact) (st : ConnectionState) (tr : List Contact) : Prop :=
  ∃ new, tr = tr₀ ++ new ∧ ∀ r s, Contact.reply r s ∈ new → s = st

/-- Since `tr₀` nothing was answered, or every answer got the current state and the session is
gone, so that the rest of the operation leaves the state as it is. -/
def Replied (tr₀ : List Contact) (c : Controller) (tr : List Contact) : Prop :=
  Unanswered tr₀ tr ∨ AnsweredWith tr₀ c.view.connection tr ∧ c.session = none

section Answers

variable {tr₀ tr more : List Contact} {st : ConnectionState} {c : Controller}

theorem unanswered_self (tr : List Contact) : Unanswered tr tr := ⟨[], by simp, by simp⟩

theorem Unanswered.append (h : Unanswered tr₀ tr) (hmore : ∀ r st, Contact.reply r st ∉ more) :
    Unanswered tr₀ (tr ++ more) := by
  obtain ⟨new, rfl, hnew⟩ := h
  refine ⟨new ++ more, by simp, fun r st hm => ?_⟩
  rcases List.mem_append.1 hm with h | h
  exacts [hnew r st h, hmore r st h]

theorem Unanswered.answeredWith (h : Unanswered tr₀ tr) (st : ConnectionState) :
    AnsweredWith tr₀ st tr := by
  obtain ⟨new, rfl, hnew⟩ := h
  exact ⟨new, rfl, fun r s hm => absurd hm (hnew r s)⟩

theorem AnsweredWith.append (h : AnsweredWith tr₀ st tr)
    (hmore : ∀ r s, Contact.reply r s ∈ more → s = st) : AnsweredWith tr₀ st (tr ++ more) := by
  obtain ⟨new, rfl, hnew⟩ := h
  refine ⟨new ++ more, by simp, fun r s hm => ?_⟩
  rcases List.mem_append.1 hm with h | h
  exacts [hnew r s h, hmore r s h]

theorem Replied.answeredWith (h : Replied tr₀ c tr) : AnsweredWith tr₀ c.view.connection tr :=
  h.elim (·.answeredWith _) (·.1)

end Answers

namespace Ctl

variable {σ : Type} (w : World σ) (tr₀ : List Contact)

/-- Releasing the session answers the waiting requests idle and leaves the controller idle with
no session. -/
theorem releaseSession_replied (reason : SessionEnd) :
    Triple (fun _ p => Unanswered tr₀ p.2) (releaseSession w.recorded reason)
      (fun _ c p => Replied tr₀ c p.2 ∧ c.session = none) := by
  rintro c ⟨s, tr⟩ h
  refine (releaseSession_recorded w reason c tr).wp ⟨rfl, rfl⟩ ?_
  rintro _ c' p' ⟨hs, hidle, -, -, -, -, htr⟩
  refine ⟨Or.inr ⟨?_, hs⟩, hs⟩
  -- the sink is released, then each waiting request is answered idle
  rw [htr, hidle]
  exact ((h.append (by simp)).answeredWith .idle).append (by simp)

theorem dispatch_replied (e : Envelope) :
    Triple (fun c p => Replied tr₀ c p.2) (dispatch w.recorded e)
      (fun _ c p => Replied tr₀ c p.2) := by
  rintro c ⟨s, tr⟩ h
  cases hlive : c.isLive e.session
  · rw [wp_dispatch_of_not_live w.recorded hlive]
    exact h
  -- a live session is present, so nothing was answered yet
  have hun : Unanswered tr₀ tr := h.resolve_right fun hreplied => by
    obtain ⟨a, ha, -, -⟩ := isLive_iff.1 hlive
    simp [hreplied.2] at ha
  obtain ⟨id, ev⟩ := e
  simp only [dispatch, wp_bind, wp_isLive, hlive, Bool.not_true, Bool.false_eq_true, if_false,
    wp_modify]
  cases ev
  case disconnected =>
    simp only [wp_bind]
    exact (releaseSession_replied w tr₀ .remote).wp hun fun _ _ _ h' => by
      simp only [wp_bind, wp_setStatus, wp_publish]
      exact h'.1
  -- every other event only shows, logs, operates the sink or asks for the tracks
  case trackStarted t p =>
    simp only [wp_ite]
    split
    · simp only [wp_bind, wp_useBinder, World.recorded_sink, World.forM_noting, wp_publish]
      exact Or.inl (hun.append (by simp))
    · exact Or.inl hun
  case transportStateChanged st =>
    simp only [wp_bind, wp_modifyView, wp_setStatus, wp_ite]
    split
    · simp only [wp_reconcileTracks, World.recorded_tracks, World.recorded_sink,
        World.forM_noting, World.noting_run, wp_publish]
      exact Or.inl ((hun.append (by simp)).append (by simp))
    · exact Or.inl hun
  case botReady data =>
    simp only [wp_bind, wp_log, wp_reconcileTracks, World.recorded_tracks, World.recorded_sink,
      World.forM_noting, World.noting_run, wp_publish]
    exact Or.inl ((hun.append (by simp)).append (by simp))
  case userTranscript t =>
    simp only [wp_ite]
    split <;> exact Or.inl hun
  all_goals exact Or.inl hun

theorem processPending_replied :
    Triple (fun c p => Replied tr₀ c p.2) (processPending w.recorded)
      (fun _ c p => Replied tr₀ c p.2) := by
  intro c p h
  simp only [processPending, wp_bind, wp_get, wp_modify]
  exact (Triple.forIn fun e _ => dispatch_replied w tr₀ e).wp h fun _ _ _ h => h

theorem afterLeave_replied (after : AfterLeave) :
    Triple (fun c p => Replied tr₀ c p.2) (afterLeave w.recorded after)
      (fun _ c p => Replied tr₀ c p.2) := by
  intro c p h
  cases after with
  | disconnect =>
      simp only [afterLeave, wp_bind, wp_setStatus]
      exact (processPending_replied w tr₀).wp h fun _ _ _ h => h
  | failedConnect =>
      simp only [afterLeave, wp_bind]
      exact (processPending_replied w tr₀).wp h fun _ _ _ h => h

theorem teardown_replied (reason : SessionEnd) (after : AfterLeave) :
    Triple (fun _ p => Unanswered tr₀ p.2) (teardown w.recorded reason after)
      (fun _ c p => Replied tr₀ c p.2) := by
  rintro c ⟨s, tr⟩ h
  simp only [teardown, wp_bind, wp_get]
  cases hs : c.session with
  | none =>
      simp only [wp_bind]
      exact (releaseSession_replied w tr₀ reason).wp h fun _ _ _ h' =>
        (afterLeave_replied w tr₀ after).wp h'.1 fun _ _ _ h => h
  | some a =>
      simp only [wp_bind, wp_modify, wp_await, World.recorded_begin, World.noting_run]
      exact Or.inl (h.append (by simp))

theorem failConnect_replied (f : Failure) :
    Triple (fun _ p => Unanswered tr₀ p.2) (failConnect w.recorded f)
      (fun _ c p => Replied tr₀ c p.2) := by
  intro c p h
  simp only [failConnect, wp_bind, wp_log, wp_setState, wp_setStatus]
  exact (teardown_replied w tr₀ .connectFailed .failedConnect).wp h fun _ _ _ h => h

theorem disconnect_replied :
    Triple (fun _ p => Unanswered tr₀ p.2) (disconnect w.recorded)
      (fun _ c p => Replied tr₀ c p.2) := by
  rintro c ⟨s, tr⟩ h
  simp only [disconnect, wp_bind, wp_get]
  split
  · rename_i hidle
    simp only [wp_bind, wp_notifyWaiters, wp_finish, World.recorded_reply, World.forM_noting]
    -- with no session, the waiting requests are answered with the state the controller keeps
    simp only [Bool.and_eq_true, beq_iff_eq, Option.isNone_iff_eq_none] at hidle
    exact Or.inr ⟨(h.answeredWith _).append (by simp), hidle.2⟩
  · simp only [wp_bind, wp_setState]
    exact (teardown_replied w tr₀ .requested .disconnect).wp h fun _ _ _ h => h

theorem connect_replied :
    Triple (fun _ p => Unanswered tr₀ p.2) (connect w.recorded)
      (fun _ c p => Replied tr₀ c p.2) := by
  rintro c ⟨s, tr⟩ h
  simp only [connect, wp_bind, wp_get]
  split
  · exact Or.inl h
  simp only [wp_bind, wp_modify, wp_modifyView, wp_setState, wp_lift, World.recorded_create,
    World.noting_run]
  split
  · exact (failConnect_replied w tr₀ _).wp (h.append (by simp)) fun _ _ _ h => h
  · simp only [wp_bind, wp_modify, wp_modifyView, wp_publish, wp_await, World.recorded_begin,
      World.noting_run]
    exact Or.inl ((h.append (by simp)).append (by simp))

theorem endedWhileConnecting_replied :
    Triple (fun c p => Replied tr₀ c p.2) (endedWhileConnecting w.recorded)
      (fun _ c p => Replied tr₀ c p.2) := by
  intro c p h
  simp only [endedWhileConnecting, wp_bind]
  exact (processPending_replied w tr₀).wp h fun _ _ _ h => h

theorem resume_replied (wt : Waiting) (r : Except String Unit) :
    Triple (fun _ p => Unanswered tr₀ p.2) (resume w.recorded wt r)
      (fun _ c p => Replied tr₀ c p.2) := by
  rintro c ⟨s, tr⟩ h
  simp only [resume, wp_bind, wp_modify]
  rcases wt with id | id | ⟨id, reason, after⟩ <;> rcases r with e | ⟨⟩
  · simp only [wp_bind, wp_isLive]
    split
    · exact (failConnect_replied w tr₀ _).wp h fun _ _ _ h => h
    · exact (endedWhileConnecting_replied w tr₀).wp (Or.inl h) fun _ _ _ h => h
  · simp only [wp_bind, wp_isLive]
    split
    · simp only [wp_bind, wp_get, wp_await, World.recorded_begin, World.noting_run]
      exact Or.inl (h.append (by simp))
    · exact (endedWhileConnecting_replied w tr₀).wp (Or.inl h) fun _ _ _ h => h
  · simp only [wp_bind, wp_isLive]
    split
    · exact (failConnect_replied w tr₀ _).wp h fun _ _ _ h => h
    · exact (endedWhileConnecting_replied w tr₀).wp (Or.inl h) fun _ _ _ h => h
  · simp only [wp_bind]
    exact (processPending_replied w tr₀).wp (Or.inl h) fun _ _ _ h => h
  all_goals
    simp only [wp_bind, wp_log]
    exact (releaseSession_replied w tr₀ reason).wp h fun _ _ _ h' =>
      (afterLeave_replied w tr₀ after).wp h'.1 fun _ _ _ h => h

/-- Every request answered during a turn got the state the turn leaves: a connect request is
answered with the current state at the end of the turn, and a release answers with the idle
state that stays. -/
theorem turn_replied :
    Triple (fun _ p => p.2 = tr₀) (turn w.recorded)
      (fun _ c p => AnsweredWith tr₀ c.view.connection p.2) := by
  rintro c ⟨s, tr⟩ htr
  simp only at htr
  subst htr
  simp only [turn, wp_bind, wp_get]
  split
  · exact (unanswered_self _).answeredWith _
  rename_i wt hwt
  simp only [wp_bind, wp_lift, World.recorded_poll, World.noting_run, wp_forIn_enqueue]
  have hpoll : ∀ x : Contact, (∀ r st, Contact.reply r st ∉ [x]) → Unanswered tr (tr ++ [x]) :=
    fun _ hx => (unanswered_self tr).append hx
  split
  · simp only [wp_bind]
    exact (resume_replied w tr wt _).wp (hpoll _ (by simp)) fun _ _ _ h => h.answeredWith
  simp only [wp_bind, wp_get]
  split
  · -- an event is queued: it is dispatched
    simp only [wp_bind, wp_modify]
    refine (dispatch_replied w tr _).wp (Or.inl (hpoll _ (by simp))) fun _ c' _ h' => ?_
    split
    · simp only [wp_bind, wp_isLive]
      split
      · exact h'.answeredWith
      · simp only [wp_bind, wp_modify]
        exact (endedWhileConnecting_replied w tr).wp h' fun _ _ _ h => h.answeredWith
    · exact h'.answeredWith
  -- nothing is queued: a request is taken
  simp only [wp_bind, wp_lift, World.recorded_takeCommand, World.noting_run]
  have htaken : ∀ cmd,
      Unanswered tr (tr ++ [Contact.poll (w.poll.run s).1.status] ++ [Contact.take cmd]) :=
    fun _ => (hpoll _ (by simp)).append (by simp)
  split
  · simp only [wp_bind, wp_state, wp_lift, World.recorded_reply, World.noting_run, wp_pure]
    exact ((htaken _).answeredWith _).append (by simp)
  · simp only [wp_bind, wp_modify]
    split
    · simp only [wp_bind, wp_modify]
      exact (disconnect_replied w tr).wp (htaken _) fun _ _ _ h => h.answeredWith
    · exact (htaken _).answeredWith _
  · exact (htaken _).answeredWith _

/-- Going on after an operation for `a`: a request it served is answered with the state the
operation returned, which is the current one. -/
theorem proceed_replied (a : Activity) (res : Option ConnectionState) :
    Triple (fun c p => Replied tr₀ c p.2 ∧ Shown res c) (proceed w.recorded a res)
      (fun _ c p => AnsweredWith tr₀ c.view.connection p.2) := by
  rintro c ⟨s, tr⟩ ⟨h, hshown⟩
  cases res with
  | none => exact h.answeredWith
  | some st =>
      cases a with
      | serving r =>
          simp only [wp_proceed_some, wp_complete_serving, World.recorded_reply, World.noting_run]
          exact h.answeredWith.append (by simp [hshown.2])
      | closing => exact h.answeredWith
      | listening => exact h.answeredWith

theorem serveMove_replied (closed : σ × List Contact → Bool) (a : Activity) :
    Triple (fun c p => p.2 = tr₀ ∧ c.Publishes ∧ (a = .listening → c.waiting = none))
      (serveMove w.recorded closed a) (fun _ c p => AnsweredWith tr₀ c.view.connection p.2) :=
  -- between operations the view itself is published, and what a move answers before it takes
  -- a command or a turn is nothing
  have hshown (hl : a = .listening) (c : Controller)
      (h : c.Publishes ∧ (a = .listening → c.waiting = none)) : c.published = c.view :=
    h.1.shown (not_failingTeardown_of_none (h.2 hl))
  have hstart (p : σ × List Contact) (h : p.2 = tr₀) : Unanswered tr₀ p.2 :=
    h ▸ unanswered_self tr₀
  @serveMove_triple _ w.recorded _ (fun c p => Unanswered tr₀ p.2 ∧ c.published = c.view) _
    (fun t c p => AnsweredWith tr₀ c.view.connection p.2 ∧ Shown t.outcome c) closed a
    (fun _ _ p e _ h _ => (dispatch_replied w tr₀ e).wp (Or.inl (hstart p h.1))
      fun _ _ _ h => h.answeredWith)
    (fun hl c p h _ => by
      simp only [World.recorded_takeCommand, World.noting_run]
      exact ⟨(hstart p h.1).append (by simp), hshown hl c h.2⟩)
    (fun _ _ _ h => ((connect_replied w tr₀).and (connect_shown w.recorded)).wp h
      fun res _ _ h' => proceed_replied w tr₀ _ res _ _ h')
    (fun _ _ _ h => ((disconnect_replied w tr₀).and (disconnect_shown w.recorded)).wp h
      fun res _ _ h' => proceed_replied w tr₀ _ res _ _ h')
    (fun _ _ h => h.1.answeredWith _)
    (fun _ => ((turn_replied w tr₀).and (turn_shown w.recorded)).mono
      (fun _ _ h => ⟨h.1, h.2.1⟩) fun _ _ _ h => h)
    (fun st c p h => by
      obtain ⟨h₁, h₂⟩ := h
      -- an answer given on completion carries the state the turn finished with
      cases a with
      | listening => exact h₁
      | serving r =>
          simp only [wp_complete_serving, World.recorded_reply, World.noting_run]
          exact h₁.append (by simp [h₂.2])
      | closing => exact h₁)
    (fun _ _ _ _ h => h.1)

end Ctl

/-! ### Every run -/

namespace DirectRun

variable {σ : Type} {w : World σ}

theorem publishes_perform {α : Type} {d : DirectRun σ} {act : Ctl (σ × List Contact) α}
    {next : α → Caller} (h : Ctl.wp act (fun _ c _ => c.Publishes) d.controller (d.world, d.trace)) :
    (d.perform act next).controller.Publishes :=
  h

/-- Every step of a sound direct run keeps the lifecycle state published; a free caller, which
starts operations, finds the whole view published. -/
theorem Sound.publishes_step {d d' : DirectRun σ} (h : d.Sound) (hp : d.controller.Publishes)
    (hs : Step w d d') : d'.controller.Publishes := by
  have hfree : d.caller = .free → d.controller.published = d.controller.view := fun hf =>
    hp.shown (not_failingTeardown_of_none (h.free hf).1)
  cases hs with
  | connect hf =>
      exact publishes_perform ((Ctl.connect_shown w.recorded).wp (hfree hf)
        fun _ _ _ h' => h'.publishes)
  | disconnect hf =>
      exact publishes_perform ((Ctl.disconnect_shown w.recorded).wp (hfree hf)
        fun _ _ _ h' => h'.publishes)
  | process hf =>
      exact publishes_perform ((Ctl.processPending_shown w.recorded).wp (hfree hf)
        fun _ _ _ h' => .of_shown h')
  | turn _ =>
      exact publishes_perform ((Ctl.turn_shown w.recorded).wp hp fun _ _ _ h' => h'.publishes)
  | event e => exact hp.congr rfl rfl rfl
  | world s => exact hp

theorem Reachable.publishes {d : DirectRun σ} (hd : d.Reachable w) : d.controller.Publishes := by
  induction hd with
  | fresh settings s => exact .of_shown rfl
  | step hd hs ih => exact hd.sound.publishes_step ih hs

end DirectRun

namespace ControllerTask

variable {σ : Type} {w : World σ} {closed : σ → Bool}

theorem Sound.publishes_step {t t' : ControllerTask σ} (h : t.Sound) (hp : t.controller.Publishes)
    (hs : Step w closed t t') : t'.controller.Publishes := by
  cases hs with
  | move _ =>
      refine @move_of_wp σ w closed t (fun t' => t'.controller.Publishes) ?_
      refine (Ctl.serveMove_publishes w.recorded _ t.activity).wp
        ⟨hp, fun hl => (h.between hl).1⟩ fun m _ _ h' => ?_
      cases m <;> exact h'
  | event e _ => exact hp.congr rfl rfl rfl
  | world s => exact hp

theorem Reachable.publishes {t : ControllerTask σ} (ht : t.Reachable w closed) :
    t.controller.Publishes := by
  induction ht with
  | fresh settings s => exact .of_shown rfl
  | step ht hs ih => exact ht.sound.publishes_step ih hs

theorem Reachable.answers_published {t : ControllerTask σ} (ht : t.Reachable w closed)
    (hrun : t.running = true) :
    AnsweredWith t.trace (t.move w closed).controller.published.connection
      (t.move w closed).trace := by
  rw [(ht.step (.move hrun)).publishes.connection]
  refine @move_of_wp σ w closed t
    (fun t' => AnsweredWith t.trace t'.controller.view.connection t'.trace) ?_
  refine (Ctl.serveMove_replied w t.trace _ t.activity).wp
    ⟨rfl, ht.publishes, fun hl => (ht.sound.between hl).1⟩ fun m _ _ h => ?_
  cases m <;> exact h

end ControllerTask

/-- **Subscribers see the view.** A dispatch for the live session, and every connect, disconnect and
finishing turn on each of its ways out, ends with the view published and returns its state; along
every run the lifecycle state is published, and the whole view between operations. -/
theorem published_view_current (σ : Type) (w : World σ) (closed : σ → Bool) :
    (∀ e, Ctl.Triple (fun c _ => c.isLive e.session = true) (Ctl.dispatch w e)
      (fun _ c _ => c.published = c.view)) ∧
    Ctl.Triple (fun c _ => c.published = c.view) (Ctl.connect w) (fun res c _ => Shown res c) ∧
    Ctl.Triple (fun c _ => c.published = c.view) (Ctl.disconnect w) (fun res c _ => Shown res c) ∧
    Ctl.Triple (fun c _ => c.Publishes) (Ctl.turn w) (fun t c _ => Shown t.outcome c) ∧
    (∀ d : DirectRun σ, d.Reachable w → d.controller.Publishes ∧
      (d.caller = .free → d.controller.published = d.controller.view)) ∧
    (∀ t : ControllerTask σ, t.Reachable w closed → t.controller.Publishes ∧
      (t.activity = .listening → t.controller.published = t.controller.view)) ∧
    (∀ t : ControllerTask σ, t.Reachable w closed → t.running = true →
      AnsweredWith t.trace (t.move w closed).controller.published.connection
        (t.move w closed).trace) := by
  refine ⟨Ctl.dispatch_shows w, Ctl.connect_shown w, Ctl.disconnect_shown w, Ctl.turn_shown w,
    fun d hd => ⟨hd.publishes, fun hf => ?_⟩, fun t ht => ⟨ht.publishes, fun hl => ?_⟩,
    fun _ ht hrun => ht.answers_published hrun⟩
  · exact hd.publishes.shown (not_failingTeardown_of_none (hd.sound.free hf).1)
  · exact ht.publishes.shown (not_failingTeardown_of_none (ht.sound.between hl).1)

/-- A fresh direct run with scripted transports that starts a connect publishes its lifecycle
state. -/
theorem published_state_after_connect :
    ((DirectRun.fresh {} ({} : Scripted)).perform (Ctl.connect Scripted.world.recorded)
      Caller.ofOutcome).Reachable Scripted.world ∧
    ((DirectRun.fresh {} ({} : Scripted)).perform (Ctl.connect Scripted.world.recorded)
      Caller.ofOutcome).controller.Publishes :=
  have hd := @DirectRun.reachable_fresh_connect _ Scripted.world {} ({} : Scripted)
  ⟨hd, ((published_view_current Scripted Scripted.world fun _ => false).2.2.2.2.1 _ hd).1⟩

end VoiceSession
