import VoiceSession.Proofs.TransportCalls
import VoiceSession.Proofs.Publication
/-!
# Lifecycle changes

Each lifecycle state entered is recorded with the state it left, and `Transition` lists the
changes the controller makes. `Controller.Lawful` says the record strings them together from idle;
the changes that are the transport's to make are each reported by an event (`Explained`).
-/

namespace VoiceSession

namespace ConnectionState

def Engaged (s : ConnectionState) : Prop := s = .connecting ∨ s = .connected

def Closing (s : ConnectionState) : Prop := s = .disconnecting ∨ s = .error

end ConnectionState

open ConnectionState

/-- The lifecycle changes the controller makes, each named for what makes it. -/
inductive Transition : ConnectionState → ConnectionState → Prop
  | start : Transition .idle .connecting
  | connected {s : ConnectionState} : s.Engaged → Transition s .connected
  | disconnect {s : ConnectionState} : s.Engaged → Transition s .disconnecting
  | fail {s : ConnectionState} : s.Engaged → Transition s .error
  | ended {s : ConnectionState} : s.Engaged → Transition s .idle
  | released {s : ConnectionState} : s.Closing → Transition s .idle

namespace Transition

theorem to_idle {s : ConnectionState} (h : s ≠ .idle) : Transition s .idle := by
  cases s with
  | idle => exact absurd rfl h
  | connecting => exact .ended (.inl rfl)
  | connected => exact .ended (.inr rfl)
  | disconnecting => exact .released (.inl rfl)
  | error => exact .released (.inr rfl)

theorem closing_to_idle {s s' : ConnectionState} (h : Transition s s') (hs : s.Closing) :
    s' = .idle := by
  cases h with
  | start => simp [Closing] at hs
  | connected he | disconnect he | fail he | ended he =>
      rcases he with rfl | rfl <;> simp [Closing] at hs
  | released _ => rfl

end Transition

/-- A record of lifecycle changes, from idle, each one a `Transition` from the state the last one
entered, ending in the state given. -/
inductive StateHistory : List (ConnectionState × ConnectionState) → ConnectionState → Prop
  | nil : StateHistory [] .idle
  | step {ts : List (ConnectionState × ConnectionState)} {a b : ConnectionState} :
      StateHistory ts a → Transition a b → StateHistory (ts ++ [(a, b)]) b

namespace StateHistory

variable {ts : List (ConnectionState × ConnectionState)} {s : ConnectionState}

theorem last_eq {pre : List (ConnectionState × ConnectionState)} {x : ConnectionState × ConnectionState}
    (h : StateHistory ts s) (hts : ts = pre ++ [x]) : x.2 = s := by
  cases h with
  | nil => simp at hts
  | step _ _ =>
      obtain ⟨-, hx⟩ := List.append_inj' hts rfl
      rw [← List.singleton_inj.1 hx]

theorem chain (h : StateHistory ts s) {pre post : List (ConnectionState × ConnectionState)}
    {x y : ConnectionState × ConnectionState} (heq : ts = pre ++ x :: y :: post) :
    y.1 = x.2 ∧ Transition y.1 y.2 := by
  induction h generalizing post with
  | nil => simp at heq
  | @step ts a b h hab ih =>
      rcases post.eq_nil_or_concat with rfl | ⟨post', z, rfl⟩
      · -- the pair ends the record, so its second is the last change
        have hsplit : pre ++ [x, y] = (pre ++ [x]) ++ [y] := by simp
        obtain ⟨hts, hy⟩ := List.append_inj' (heq.trans hsplit) rfl
        rw [← List.singleton_inj.1 hy]
        exact ⟨(h.last_eq hts).symm, hab⟩
      · have hsplit : pre ++ x :: y :: post'.concat z = (pre ++ x :: y :: post') ++ [z] := by simp
        exact ih (List.append_inj' (heq.trans hsplit) rfl).1

theorem closing_then_idle (h : StateHistory ts s) {pre post : List (ConnectionState × ConnectionState)}
    {x y : ConnectionState × ConnectionState} (heq : ts = pre ++ x :: y :: post) (hx : x.2.Closing) :
    y = (x.2, .idle) := by
  obtain ⟨h1, ht⟩ := h.chain heq
  obtain ⟨a, b⟩ := y
  simp only at h1 ht
  subst h1
  rw [ht.closing_to_idle hx]

end StateHistory

namespace Controller

/-- The record of lifecycle changes is a history ending in the current state, and idle was left
once for every session started. -/
def Lawful (c : Controller) : Prop :=
  StateHistory c.transitions c.view.connection ∧
    c.transitions.count (.idle, .connecting) = c.started

theorem lawful_ofSettings (s : ControllerSettings) : (ofSettings s).Lawful := ⟨.nil, rfl⟩

end Controller

/-- The event of the live session that alone makes a change: its connected event enters connected,
and its disconnected event ends a session being connected or connected. -/
inductive Event.Reports : Event → ConnectionState × ConnectionState → Prop
  | connected {s : ConnectionState} : Event.Reports .connected (s, .connected)
  | disconnected {s : ConnectionState} : s.Engaged → Event.Reports .disconnected (s, .idle)

def Reported (x : ConnectionState × ConnectionState) : Prop := ∃ ev, Event.Reports ev x

def Explained (evs : List Event) (ts₀ ts : List (ConnectionState × ConnectionState)) : Prop :=
  ∃ new, ts = ts₀ ++ new ∧ ∀ x ∈ new, Reported x → ∃ ev ∈ evs, ev.Reports x

section Explained

variable {evs evs' : List Event} {ts₀ ts ts' : List (ConnectionState × ConnectionState)}
  {x : ConnectionState × ConnectionState}

theorem explained_self (evs : List Event) (ts : List (ConnectionState × ConnectionState)) :
    Explained evs ts ts := ⟨[], by simp, by simp⟩

theorem Explained.snoc (h : Explained evs ts₀ ts) (hx : Reported x → ∃ ev ∈ evs, ev.Reports x) :
    Explained evs ts₀ (ts ++ [x]) := by
  obtain ⟨new, rfl, hnew⟩ := h
  refine ⟨new ++ [x], by simp, fun y hy hr => ?_⟩
  rcases List.mem_append.1 hy with hy | hy
  · exact hnew y hy hr
  · rw [List.mem_singleton.1 hy]
    exact hx (List.mem_singleton.1 hy ▸ hr)

theorem Explained.unreported (h : Explained evs ts₀ ts) (hx : ¬ Reported x) :
    Explained evs ts₀ (ts ++ [x]) :=
  h.snoc fun hr => absurd hr hx

theorem Explained.trans (h : Explained evs ts₀ ts) (h' : Explained evs' ts ts') (hsub : evs' ⊆ evs) :
    Explained evs ts₀ ts' := by
  obtain ⟨new, rfl, hnew⟩ := h
  obtain ⟨new', rfl, hnew'⟩ := h'
  refine ⟨new ++ new', by simp, fun y hy hr => ?_⟩
  rcases List.mem_append.1 hy with hy | hy
  · exact hnew y hy hr
  · obtain ⟨ev, hev, hrep⟩ := hnew' y hy hr
    exact ⟨ev, hsub hev, hrep⟩

end Explained

/-- Entering idle from a state being torn down, and entering any state but connected or idle, is
never the transport's to make. -/
theorem not_reported_of_closing {s : ConnectionState} (hs : s.Closing) : ¬ Reported (s, .idle) := by
  rintro ⟨ev, hr⟩
  cases hr with
  | disconnected he => rcases he with rfl | rfl <;> rcases hs with h | h <;> cases h

theorem not_reported_enter {s s' : ConnectionState} (h : s' ≠ .connected) (h' : s' ≠ .idle) :
    ¬ Reported (s, s') := by
  rintro ⟨ev, hr⟩
  cases hr with
  | connected => exact h rfl
  | disconnected _ => exact h' rfl

namespace Controller

/-- The changes a dispatch of `e` makes: for the live session, its connected event enters
connected and its disconnected event goes back to idle; nothing else changes the state. -/
def eventChanges (c : Controller) (e : Envelope) : List (ConnectionState × ConnectionState) :=
  if c.isLive e.session then
    match e.event with
    | .connected => [(c.view.connection, .connected)]
    | .disconnected => [(c.view.connection, .idle)]
    | _ => []
  else []

end Controller

namespace Controller

variable {c c' : Controller} {s : ConnectionState}

theorem Lawful.enter (h : c.Lawful) (ht : Transition c.view.connection s) (hs : s ≠ .connecting)
    (htr : c'.transitions = c.transitions ++ [(c.view.connection, s)])
    (hconn : c'.view.connection = s) (hst : c'.started = c.started) : c'.Lawful := by
  refine ⟨?_, ?_⟩
  · rw [htr, hconn]
    exact .step h.1 ht
  · rw [htr, hst, List.count_append, h.2]
    simp [hs]

theorem Lawful.start (h : c.Lawful) (hidle : c.view.connection = .idle)
    (htr : c'.transitions = c.transitions ++ [(c.view.connection, .connecting)])
    (hconn : c'.view.connection = .connecting) (hst : c'.started = c.started + 1) : c'.Lawful := by
  refine ⟨?_, ?_⟩
  · rw [htr, hconn, hidle]
    exact .step (hidle ▸ h.1) .start
  · rw [htr, hst, List.count_append, h.2, hidle]
    simp

theorem Lawful.congr (h : c.Lawful) (htr : c'.transitions = c.transitions)
    (hconn : c'.view.connection = c.view.connection) (hst : c'.started = c.started) : c'.Lawful := by
  rw [Lawful, htr, hconn, hst]
  exact h

def Queued (evs : List Event) (c : Controller) : Prop := ∀ e ∈ c.inbox, e.event ∈ evs

theorem Consistent.engaged_of_live (hc : c.Consistent) {id : SessionId} (hlive : c.isLive id = true) :
    c.view.connection.Engaged := by
  obtain ⟨a, ha, -, htomb⟩ := isLive_iff.1 hlive
  exact (ha ▸ hc.agrees).live htomb

theorem Consistent.closing_of_leaving (hc : c.Consistent) {id : SessionId} {reason : SessionEnd}
    {after : AfterLeave} (hw : c.waiting = some (.leaving id reason after)) :
    c.view.connection.Closing := by
  obtain ⟨a, ha, htomb⟩ := hc.leaving id reason after hw
  exact (ha ▸ hc.agrees).tombstoned htomb

theorem Consistent.steady (hc : c.Consistent) (hlive : ∀ a, c.session = some a → a.tombstoned = false) :
    c.view.connection = .idle ∧ c.session = none ∨ c.view.connection.Engaged := by
  cases hs : c.session with
  | none => exact .inl ⟨hc.agrees.none_iff.1 hs, rfl⟩
  | some a => exact .inr ((hs ▸ hc.agrees).live (hlive a hs))

theorem eventChanges_explained (c : Controller) (e : Envelope) :
    Explained [e.event] c.transitions (c.transitions ++ c.eventChanges e) := by
  refine ⟨c.eventChanges e, rfl, ?_⟩
  rintro x hx ⟨ev, hr⟩
  refine ⟨e.event, List.mem_singleton_self _, ?_⟩
  obtain ⟨id, event⟩ := e
  unfold eventChanges at hx
  split at hx
  · cases event <;> simp only [List.mem_singleton, List.not_mem_nil] at hx
    case connected => exact hx ▸ .connected
    case disconnected =>
      subst hx
      cases hr with
      | disconnected he => exact .disconnected he
  · simp at hx

end Controller

/-- What an operation that dispatches events keeps: the record is lawful, the controller
consistent, every change since `ts₀` that only an event makes was reported by one of `evs`, and
every event queued is among `evs`. -/
def Accounted (evs : List Event) (ts₀ : List (ConnectionState × ConnectionState)) (c : Controller) :
    Prop :=
  c.Lawful ∧ c.Consistent ∧ Explained evs ts₀ c.transitions ∧ c.Queued evs

open Controller

namespace Ctl

variable {σ : Type} (w : World σ)

theorem releaseSession_changes (reason : SessionEnd) (c₀ : Controller) :
    Triple (fun c _ => c = c₀) (releaseSession w reason)
      (fun _ c _ => c.transitions = c₀.transitions ++ [(c₀.view.connection, .idle)] ∧
        c.view.connection = .idle ∧ c.session = none ∧ c.started = c₀.started ∧
        c.inbox = c₀.inbox) := by
  rintro c s rfl
  simp only [releaseSession, wp_bind, wp_modify, wp_useBinder, wp_modifyView, wp_setState,
    wp_notifyWaiters, and_self]

theorem afterLeave_changes (after : AfterLeave) (c₀ : Controller) :
    Triple (fun c _ => c = c₀ ∧ c₀.session = none) (afterLeave w after)
      (fun _ c _ => c.transitions = c₀.transitions ∧ c.view.connection = c₀.view.connection ∧
        c.started = c₀.started) := by
  rintro c s ⟨rfl, hs⟩
  cases after with
  | disconnect =>
      simp only [afterLeave, wp_bind, wp_setStatus, wp_processPending_of_no_session, hs,
        wp_publish, wp_finish, and_self]
  | failedConnect =>
      simp only [afterLeave, wp_bind, wp_processPending_of_no_session, hs, wp_finish, and_self]

/-! ### Operations that no event drives

A teardown, a failure, a disconnect and a connect dispatch nothing of a live session: each keeps the
record lawful and makes no change that only an event makes. -/

section Unreported

variable (ts₁ : List (ConnectionState × ConnectionState))

theorem teardown_lawful (reason : SessionEnd) (after : AfterLeave) :
    Triple (fun c _ => c.Lawful ∧ c.view.connection.Closing ∧ c.transitions = ts₁)
      (teardown w reason after) (fun _ c _ => c.Lawful ∧ Explained [] ts₁ c.transitions) := by
  rintro c s ⟨h, hcl, rfl⟩
  simp only [teardown, wp_bind, wp_get]
  cases hs : c.session with
  | none =>
      simp only [wp_bind]
      refine (releaseSession_changes w reason c).wp rfl ?_
      rintro _ c₁ _ ⟨htr, hidle, hs₁, hst, -⟩
      -- the teardown ends in idle, which only the end of a teardown enters from here
      have h₁ : c₁.Lawful := h.enter (.released hcl) (by decide) htr hidle hst
      have he₁ : Explained [] c.transitions c₁.transitions :=
        htr ▸ (explained_self _ _).unreported (not_reported_of_closing hcl)
      refine (afterLeave_changes w after c₁).wp ⟨rfl, hs₁⟩ ?_
      rintro _ c₂ _ ⟨htr₂, hconn₂, hst₂⟩
      exact ⟨h₁.congr htr₂ hconn₂ hst₂, htr₂ ▸ he₁⟩
  | some a =>
      simp only [wp_bind, wp_modify, wp_await]
      exact ⟨h, explained_self _ _⟩

theorem failConnect_lawful (f : Failure) :
    Triple (fun c _ => c.Lawful ∧ c.view.connection.Engaged ∧ c.transitions = ts₁)
      (failConnect w f) (fun _ c _ => c.Lawful ∧ Explained [] ts₁ c.transitions) := by
  rintro c s ⟨h, he, rfl⟩
  simp only [failConnect, wp_bind, wp_log, wp_setState, wp_setStatus]
  refine (teardown_lawful w _ .connectFailed .failedConnect).wp
    ⟨h.enter (.fail he) (by decide) rfl rfl rfl, .inr rfl, rfl⟩ fun _ _ _ h' => h'.imp_right ?_
  exact fun he' => ((explained_self [] _).unreported
    (not_reported_enter (by decide) (by decide))).trans he' (by simp)

theorem disconnect_lawful :
    Triple (fun c _ => c.Lawful ∧ (c.view.connection = .idle ∧ c.session = none ∨
        c.view.connection.Engaged) ∧ c.transitions = ts₁)
      (disconnect w) (fun _ c _ => c.Lawful ∧ Explained [] ts₁ c.transitions) := by
  rintro c s ⟨h, hst, rfl⟩
  simp only [disconnect, wp_bind, wp_get]
  split
  · simp only [wp_bind, wp_notifyWaiters, wp_finish]
    exact ⟨h, explained_self _ _⟩
  · rename_i hnot
    have he : c.view.connection.Engaged := hst.resolve_left fun hidle =>
      hnot (by simp [Controller.state, hidle.1, hidle.2])
    simp only [wp_bind, wp_setState]
    refine (teardown_lawful w _ .requested .disconnect).wp
      ⟨h.enter (.disconnect he) (by decide) rfl rfl rfl, .inl rfl, rfl⟩ fun _ _ _ h' => h'.imp_right ?_
    exact fun he' => ((explained_self [] _).unreported
      (not_reported_enter (by decide) (by decide))).trans he' (by simp)

theorem connect_lawful :
    Triple (fun c _ => c.Lawful ∧ c.transitions = ts₁) (connect w)
      (fun _ c _ => c.Lawful ∧ Explained [] ts₁ c.transitions) := by
  rintro c s ⟨h, rfl⟩
  simp only [connect, wp_bind, wp_get]
  split
  · exact ⟨h, explained_self _ _⟩
  rename_i hcan
  have hidle : c.view.connection = .idle := by
    simpa [ConnectionState.canConnect, Controller.state] using hcan
  -- leaving idle for connecting is the one change a connect makes itself
  have hex : Explained [] c.transitions (c.transitions ++ [(c.view.connection, .connecting)]) :=
    (explained_self _ _).unreported (not_reported_enter (by decide) (by decide))
  simp only [wp_bind, wp_modify, wp_modifyView, wp_setState, wp_lift]
  split
  · exact (failConnect_lawful w _ _).wp ⟨h.start hidle rfl rfl rfl, .inl rfl, rfl⟩
      fun _ _ _ h' => h'.imp_right fun he' => hex.trans he' (by simp)
  · simp only [wp_bind, wp_modify, wp_modifyView, wp_publish, wp_await]
    exact ⟨h.start hidle rfl rfl rfl, hex⟩

end Unreported

/-! ### Operations that dispatch events -/

theorem dispatch_changes (e : Envelope) (c₀ : Controller) :
    Triple (fun c _ => c = c₀) (dispatch w e)
      (fun _ c _ => c.transitions = c₀.transitions ++ c₀.eventChanges e ∧ c.inbox = c₀.inbox) := by
  rintro c s rfl
  cases hlive : c.isLive e.session
  · rw [wp_dispatch_of_not_live w hlive]
    simp [eventChanges, hlive]
  obtain ⟨id, ev⟩ := e
  simp only [dispatch, wp_bind, wp_isLive, hlive, Bool.not_true, Bool.false_eq_true, if_false,
    wp_modify]
  cases ev
  case disconnected =>
    simp only [wp_bind, releaseSession, wp_modify, wp_useBinder, wp_modifyView, wp_setState,
      wp_notifyWaiters, wp_setStatus, wp_publish]
    simp [eventChanges, hlive]
  case connected =>
    simp only [wp_bind, wp_setState, wp_setStatus, wp_publish]
    simp [eventChanges, hlive]
  all_goals
    simp only [wp_bind, wp_modifyView, wp_setStatus, wp_log, wp_useBinder, wp_reconcileTracks,
      wp_publish, wp_ite, ite_self]
    simp [eventChanges, hlive]

theorem dispatch_lawful (e : Envelope) :
    Triple (fun c _ => c.Lawful ∧ c.Consistent) (dispatch w e) (fun _ c _ => c.Lawful) := by
  rintro c s ⟨h, hc⟩
  cases hlive : c.isLive e.session
  · rw [wp_dispatch_of_not_live w hlive]
    exact h
  have he := hc.engaged_of_live hlive
  obtain ⟨id, ev⟩ := e
  simp only [dispatch, wp_bind, wp_isLive, hlive, Bool.not_true, Bool.false_eq_true, if_false,
    wp_modify]
  cases ev
  case connected =>
    simp only [wp_bind, wp_setState, wp_setStatus, wp_publish]
    exact h.enter (.connected he) (by decide) rfl rfl rfl
  case disconnected =>
    simp only [wp_bind]
    refine (releaseSession_changes w .remote _).wp rfl ?_
    rintro _ _ _ ⟨htr, hidle, -, hst, -⟩
    simp only [wp_bind, wp_setStatus, wp_publish]
    exact h.enter (.ended he) (by decide) htr hidle hst
  -- every other event leaves the state alone
  all_goals
    simp only [wp_bind, wp_modifyView, wp_setStatus, wp_log, wp_useBinder, wp_reconcileTracks,
      wp_publish, wp_ite]
  case trackStarted t p => split <;> exact h
  case transportStateChanged st => split <;> exact h
  case userTranscript t => split <;> exact h
  all_goals exact h

section Events

variable {evs : List Event} {ts₀ : List (ConnectionState × ConnectionState)}

theorem dispatch_accounted (e : Envelope) (he : e.event ∈ evs) :
    Triple (fun c _ => Accounted evs ts₀ c) (dispatch w e) (fun _ c _ => Accounted evs ts₀ c) := by
  rintro c s ⟨h, hc, hx, hq⟩
  refine wp_mono ?_ (wp_and (wp_and (dispatch_lawful w e c s ⟨h, hc⟩)
    (dispatch_consistent w e c s hc)) (dispatch_changes w e c c s rfl))
  rintro _ c' _ ⟨⟨h', hc'⟩, htr, hin⟩
  refine ⟨h', hc', ?_, fun e' he' => hq e' (hin ▸ he')⟩
  rw [htr]
  exact hx.trans (eventChanges_explained c e) (by simpa using he)

theorem processPending_accounted :
    Triple (fun c _ => Accounted evs ts₀ c) (processPending w) (fun _ c _ => Accounted evs ts₀ c) := by
  rintro c s ⟨h, hc, hx, hq⟩
  simp only [processPending, wp_bind, wp_get, wp_modify]
  exact (Triple.forIn fun e he => dispatch_accounted w e (hq e he)).wp
    ⟨h, { hc with }, hx, by simp [Queued]⟩ fun _ _ _ h => h

theorem endedWhileConnecting_lawful :
    Triple (fun c _ => Accounted evs ts₀ c) (endedWhileConnecting w)
      (fun _ c _ => c.Lawful ∧ Explained evs ts₀ c.transitions) := by
  intro c s h
  simp only [endedWhileConnecting, wp_bind]
  exact (processPending_accounted w).wp h fun _ _ _ h => ⟨h.1, h.2.2.1⟩

theorem resume_lawful (wt : Waiting) (r : Except String Unit) :
    Triple (fun c _ => Accounted evs ts₀ c ∧ c.waiting = some wt) (resume w wt r)
      (fun _ c _ => c.Lawful ∧ Explained evs ts₀ c.transitions) := by
  rintro c s ⟨⟨h, hc, hx, hq⟩, hwt⟩
  -- the call is over, so nothing is awaited from here on
  have hc' : { c with waiting := none }.Consistent := { hc with leaving := by simp }
  have ha : Accounted evs ts₀ { c with waiting := none } := ⟨h, hc', hx, hq⟩
  simp only [resume, wp_bind, wp_modify]
  rcases wt with id | id | ⟨id, reason, after⟩ <;> rcases r with e | ⟨⟩
  · simp only [wp_bind, wp_isLive]
    split
    · rename_i hlive
      exact (failConnect_lawful w _ _).wp ⟨h, hc'.engaged_of_live hlive, rfl⟩
        fun _ _ _ h' => h'.imp_right fun he' => hx.trans he' (by simp)
    · exact (endedWhileConnecting_lawful w).wp ha fun _ _ _ h => h
  · simp only [wp_bind, wp_isLive]
    split
    · simp only [wp_bind, wp_get, wp_await]
      exact ⟨h, hx⟩
    · exact (endedWhileConnecting_lawful w).wp ha fun _ _ _ h => h
  · simp only [wp_bind, wp_isLive]
    split
    · rename_i hlive
      exact (failConnect_lawful w _ _).wp ⟨h, hc'.engaged_of_live hlive, rfl⟩
        fun _ _ _ h' => h'.imp_right fun he' => hx.trans he' (by simp)
    · exact (endedWhileConnecting_lawful w).wp ha fun _ _ _ h => h
  · simp only [wp_bind]
    exact (processPending_accounted w).wp ha fun _ _ _ h => ⟨h.1, h.2.2.1⟩
  -- a teardown finishes: idle is entered from the state it was torn down in
  all_goals
    have hcl := hc.closing_of_leaving hwt
    simp only [wp_bind, wp_log]
    refine (releaseSession_changes w reason _).wp rfl ?_
    rintro _ c₁ _ ⟨htr, hidle, hs₁, hst, -⟩
    refine (afterLeave_changes w after c₁).wp ⟨rfl, hs₁⟩ ?_
    rintro _ c₂ _ ⟨htr₂, hconn₂, hst₂⟩
    refine ⟨(h.enter (.released hcl) (by decide) htr hidle hst).congr htr₂ hconn₂ hst₂, ?_⟩
    rw [htr₂, htr]
    exact hx.unreported (not_reported_of_closing hcl)

theorem turn_lawful :
    Triple (fun c s => Accounted evs ts₀ c ∧ c.Waits ∧ ∀ ev ∈ (w.poll.run s).1.emitted, ev ∈ evs)
      (turn w) (fun _ c _ => c.Lawful ∧ Explained evs ts₀ c.transitions) := by
  rintro c s ⟨⟨h, hc, hx, hq⟩, hw, hpoll⟩
  simp only [turn, wp_bind, wp_get]
  split
  · exact ⟨h, hx⟩
  rename_i wt hwt
  simp only [wp_bind, wp_lift, wp_forIn_enqueue]
  -- the events the poll reports are queued behind the others, all of them at hand
  have ha : Accounted evs ts₀
      { c with inbox := c.inbox ++ (w.poll.run s).1.emitted.map fun e => ⟨wt.session, e⟩ } := by
    refine ⟨h, { hc with }, hx, fun e he => ?_⟩
    rcases List.mem_append.1 he with he | he
    · exact hq e he
    · obtain ⟨ev, hev, rfl⟩ := List.mem_map.1 he
      exact hpoll ev hev
  split
  · simp only [wp_bind]
    exact (resume_lawful w wt _).wp ⟨ha, hwt⟩ fun _ _ _ h => h
  simp only [wp_bind, wp_get]
  split
  · rename_i e rest hin
    simp only [wp_bind, wp_modify]
    have hq' : ∀ e' ∈ e :: rest, e'.event ∈ evs := fun e' he' => ha.2.2.2 e' (hin ▸ he')
    refine (dispatch_accounted w e (hq' e (List.mem_cons_self ..))).wp
      ⟨h, { hc with }, hx, fun e' he' => hq' e' (List.mem_cons_of_mem _ he')⟩ fun _ c' _ h' => ?_
    split
    · simp only [wp_bind, wp_isLive]
      split
      · exact ⟨h'.1, h'.2.2.1⟩
      · simp only [wp_bind, wp_modify]
        exact (endedWhileConnecting_lawful w).wp
          ⟨h'.1, { h'.2.1 with leaving := by simp }, h'.2.2.1, h'.2.2.2⟩ fun _ _ _ h => h
    · exact ⟨h'.1, h'.2.2.1⟩
  simp only [wp_bind, wp_lift]
  split
  · simp only [wp_bind, wp_state, wp_lift, wp_pure]
    exact ⟨h, hx⟩
  · simp only [wp_bind, wp_modify]
    split
    · -- a disconnect request abandons the connect of a live session
      rename_i hown
      obtain ⟨id, hid⟩ := Option.isSome_iff_exists.1 hown
      have he := hc.engaged_of_live (hw.owned wt id hwt hid)
      simp only [wp_bind, wp_modify]
      exact (disconnect_lawful w _).wp ⟨h, .inr he, rfl⟩
        fun _ _ _ h' => h'.imp_right fun he' => hx.trans he' (by simp)
    · exact ⟨h, hx⟩
  · exact ⟨h, hx⟩

theorem serveMove_lawful (closed : σ → Bool) (a : Activity) :
    Triple (fun c s => Accounted evs ts₀ c ∧ c.Waits ∧
        (a = .listening → c.waiting = none ∧ ∀ a', c.session = some a' → a'.tombstoned = false) ∧
        ∀ ev ∈ (w.poll.run s).1.emitted, ev ∈ evs)
      (serveMove w closed a) (fun _ c _ => c.Lawful ∧ Explained evs ts₀ c.transitions) := by
  -- an operation taken between two others starts from a steady controller, and the changes it
  -- explains follow those explained so far
  refine @serveMove_triple _ w _ (fun c _ => c.Lawful ∧ Explained evs ts₀ c.transitions ∧
      (c.view.connection = .idle ∧ c.session = none ∨ c.view.connection.Engaged))
    _ (fun _ c _ => c.Lawful ∧ Explained evs ts₀ c.transitions) closed a ?dispatch ?take ?connect
    ?disconnect (fun _ _ h => ⟨h.1, h.2.1⟩) ?turn
    (complete_keeps w (fun c => c.Lawful ∧ Explained evs ts₀ c.transitions) a) (fun _ _ _ _ h => h)
  case dispatch =>
    rintro - c _ e queued ⟨⟨h, hc, hx, hq⟩, -⟩ hin
    exact (dispatch_accounted w e (hq e (by simp [hin]))).wp
      ⟨h, { hc with }, hx, fun e' he' => hq e' (by simp [hin, he'])⟩ fun _ _ _ h' => ⟨h'.1, h'.2.2.1⟩
  case take =>
    rintro hl _ _ ⟨⟨h, hc, hx, -⟩, -, hsteady, -⟩ -
    exact ⟨h, hx, hc.steady (hsteady hl).2⟩
  case connect =>
    rintro _ _ _ ⟨h, hx, -⟩
    exact (connect_lawful w _).wp ⟨h, rfl⟩ fun res _ _ h' =>
      proceed_keeps w (fun c => c.Lawful ∧ Explained evs ts₀ c.transitions) _ res _ _
        (h'.imp_right fun he' => hx.trans he' (by simp))
  case disconnect =>
    rintro _ _ _ ⟨h, hx, hsteady⟩
    exact (disconnect_lawful w _).wp ⟨h, hsteady, rfl⟩ fun res _ _ h' =>
      proceed_keeps w (fun c => c.Lawful ∧ Explained evs ts₀ c.transitions) _ res _ _
        (h'.imp_right fun he' => hx.trans he' (by simp))
  case turn =>
    exact fun _ => (turn_lawful w).mono (fun _ _ h => ⟨h.1, h.2.1, h.2.2.2⟩) fun _ _ _ h => h

end Events

end Ctl

/-! ### Along every run -/

theorem not_tombstoned_of_calls {c : Controller} {tr : List Contact} (hc : Calls c tr)
    (hw : c.waiting = none) : ∀ a, c.session = some a → a.tombstoned = false := by
  intro a ha
  cases htomb : a.tombstoned
  · rfl
  · obtain ⟨_, _, hw'⟩ := hc.tombstoned a ha htomb
    simp [hw] at hw'

def eventsAt {σ : Type} (w : World σ) (c : Controller) (s : σ) : List Event :=
  c.inbox.map (·.event) ++ (w.poll.run s).1.emitted

theorem accounted_start {σ : Type} {w : World σ} {c : Controller} (s : σ) (h : c.Lawful)
    (hc : c.Consistent) : Accounted (eventsAt w c s) c.transitions c :=
  ⟨h, hc, explained_self _ _, fun _ he => List.mem_append_left _ (List.mem_map_of_mem he)⟩

theorem polled_at {σ : Type} {w : World σ} {c : Controller} {s : σ} {tr : List Contact} :
    ∀ ev ∈ (w.recorded.poll.run (s, tr)).1.emitted, ev ∈ eventsAt w c s :=
  fun _ hev => List.mem_append_right _ (by simpa using hev)

namespace DirectRun

variable {σ : Type} {w : World σ}

/-- A step keeps the record lawful, and every change in it that only an event makes was reported by
an event queued when it began or reported by its poll. -/
theorem Sound.lawful_step {d d' : DirectRun σ} (h : d.Sound) (hcalls : Calls d.controller d.trace)
    (hl : d.controller.Lawful) (hs : Step w d d') :
    d'.controller.Lawful ∧
      Explained (eventsAt w d.controller d.world) d.controller.transitions d'.controller.transitions := by
  have ha := accounted_start (w := w) d.world hl h.consistent
  cases hs with
  | connect _ =>
      exact @perform_of_wp σ _ d _ _ (fun d' => d'.controller.Lawful ∧
          Explained (eventsAt w d.controller d.world) d.controller.transitions d'.controller.transitions)
        ((Ctl.connect_lawful w.recorded _).wp ⟨hl, rfl⟩ fun _ _ _ h' =>
          h'.imp_right fun he' => (explained_self _ _).trans he' (by simp))
  | disconnect hfree =>
      -- a free caller awaits nothing, so no session is being torn down
      have hsteady := h.consistent.steady (not_tombstoned_of_calls hcalls (h.free hfree).1)
      exact @perform_of_wp σ _ d _ _ (fun d' => d'.controller.Lawful ∧
          Explained (eventsAt w d.controller d.world) d.controller.transitions d'.controller.transitions)
        ((Ctl.disconnect_lawful w.recorded _).wp ⟨hl, hsteady, rfl⟩ fun _ _ _ h' =>
          h'.imp_right fun he' => (explained_self _ _).trans he' (by simp))
  | process _ =>
      exact @perform_of_wp σ _ d _ _ (fun d' => d'.controller.Lawful ∧
          Explained (eventsAt w d.controller d.world) d.controller.transitions d'.controller.transitions)
        ((Ctl.processPending_accounted w.recorded).wp ha fun _ _ _ h' => ⟨h'.1, h'.2.2.1⟩)
  | turn _ =>
      exact @perform_of_wp σ _ d _ _ (fun d' => d'.controller.Lawful ∧
          Explained (eventsAt w d.controller d.world) d.controller.transitions d'.controller.transitions)
        ((Ctl.turn_lawful w.recorded).wp ⟨ha, h.waits, polled_at⟩ fun _ _ _ h' => h')
  | event e => exact ⟨hl, explained_self _ _⟩
  | world s => exact ⟨hl, explained_self _ _⟩

theorem Reachable.lawful {d : DirectRun σ} (hd : d.Reachable w) : d.controller.Lawful := by
  induction hd with
  | fresh settings s => exact lawful_ofSettings settings
  | step hd hs ih => exact (hd.sound.lawful_step hd.calls ih hs).1

end DirectRun

namespace ControllerTask

variable {σ : Type} {w : World σ} {closed : σ → Bool}

/-- A move keeps the record lawful, and every change in it that only an event makes was reported by
an event queued when it began or reported by its poll. -/
theorem Sound.lawful_move {t : ControllerTask σ} (h : t.Sound) (hcalls : Calls t.controller t.trace)
    (hl : t.controller.Lawful) :
    (t.move w closed).controller.Lawful ∧
      Explained (eventsAt w t.controller t.world) t.controller.transitions
        (t.move w closed).controller.transitions := by
  refine @move_of_wp σ w closed t (fun t' => t'.controller.Lawful ∧
    Explained (eventsAt w t.controller t.world) t.controller.transitions t'.controller.transitions) ?_
  -- between operations nothing is awaited, so no session is being torn down
  refine (Ctl.serveMove_lawful w.recorded _ t.activity).wp
    ⟨accounted_start t.world hl h.consistent, h.waits,
      fun hl' => ⟨(h.between hl').1, not_tombstoned_of_calls hcalls (h.between hl').1⟩, polled_at⟩
    fun m _ _ h' => ?_
  cases m <;> exact h'

theorem Sound.lawful_step {t t' : ControllerTask σ} (h : t.Sound) (hcalls : Calls t.controller t.trace)
    (hl : t.controller.Lawful) (hs : Step w closed t t') : t'.controller.Lawful := by
  cases hs with
  | move _ => exact (h.lawful_move hcalls hl).1
  | event e _ => exact hl
  | world s => exact hl

theorem Reachable.lawful {t : ControllerTask σ} (ht : t.Reachable w closed) : t.controller.Lawful := by
  induction ht with
  | fresh settings s => exact lawful_ofSettings settings
  | step ht hs ih => exact ht.sound.lawful_step ht.calls ih hs

end ControllerTask

/-- Every lifecycle change the controller makes follows `Transition`: a dispatch makes exactly the
change its event reports, a connect or a disconnect none that only an event makes, and along every
run the record is a `StateHistory` from idle in which every change only an event makes was
reported by an event at hand. -/
theorem lifecycle_changes_follow_transitions (σ : Type) (w : World σ) (closed : σ → Bool) :
    (∀ e c s, Ctl.wp (Ctl.dispatch w e)
      (fun _ c' _ => c'.transitions = c.transitions ++ c.eventChanges e) c s) ∧
    (∀ c s, c.Lawful → Ctl.wp (Ctl.connect w)
      (fun _ c' _ => c'.Lawful ∧ Explained [] c.transitions c'.transitions) c s) ∧
    (∀ c s, c.Lawful → (c.view.connection = .idle ∧ c.session = none ∨ c.view.connection.Engaged) →
      Ctl.wp (Ctl.disconnect w)
        (fun _ c' _ => c'.Lawful ∧ Explained [] c.transitions c'.transitions) c s) ∧
    (∀ d : DirectRun σ, d.Reachable w → d.controller.Lawful ∧
      ∀ d', DirectRun.Step w d d' → Explained (eventsAt w d.controller d.world)
        d.controller.transitions d'.controller.transitions) ∧
    (∀ t : ControllerTask σ, t.Reachable w closed → t.controller.Lawful ∧
      Explained (eventsAt w t.controller t.world) t.controller.transitions
        (t.move w closed).controller.transitions) := by
  refine ⟨fun e c s => (Ctl.dispatch_changes w e c).wp rfl fun _ _ _ h => h.1,
    fun c s h => Ctl.connect_lawful w _ c s ⟨h, rfl⟩,
    fun c s h hst => Ctl.disconnect_lawful w _ c s ⟨h, hst, rfl⟩,
    fun d hd => ⟨hd.lawful, fun _ hs => (hd.sound.lawful_step hd.calls hd.lawful hs).2⟩,
    fun t ht => ⟨ht.lawful, (ht.sound.lawful_move ht.calls ht.lawful).2⟩⟩

/-- A fresh direct run with scripted transports that connects has a lawful record of changes. -/
theorem lifecycle_lawful_after_connect :
    ((DirectRun.fresh {} ({} : Scripted)).perform (Ctl.connect Scripted.world.recorded)
      Caller.ofOutcome).Reachable Scripted.world ∧
    ((DirectRun.fresh {} ({} : Scripted)).perform (Ctl.connect Scripted.world.recorded)
      Caller.ofOutcome).controller.Lawful :=
  have hd := @DirectRun.reachable_fresh_connect _ Scripted.world {} ({} : Scripted)
  ⟨hd, ((lifecycle_changes_follow_transitions Scripted Scripted.world fun _ => false).2.2.2.1 _
    hd).1⟩

end VoiceSession
