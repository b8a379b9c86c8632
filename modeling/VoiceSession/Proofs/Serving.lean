import Mathlib.Data.List.Nodup
import VoiceSession.Proofs.Requests
import VoiceSession.Controller.Task
import VoiceSession.Host.Runtime
/-!
# Serving requests

The controller's task is followed through every run in every recorded world, with moves, queued
events and changes of the world's state in any order. `ControllerTask.Sound` holds at every point
of a run, and `Moved` says what a single move does to the trace.
-/

namespace VoiceSession

open Controller

namespace Ctl

variable {σ : Type} (w : World σ) {Q : Move → Controller → σ → Prop} {c : Controller} {s : σ}

@[simp] theorem wp_complete_serving (r : RequestId) (st : ConnectionState) :
    wp (complete w (.serving r) st) Q c s = Q (.next .listening) c ((w.reply r st).run s).2 := rfl

@[simp] theorem wp_complete_closing (st : ConnectionState) :
    wp (complete w .closing st) Q c s = Q .stop c s := rfl

@[simp] theorem wp_proceed_none (a : Activity) : wp (proceed w a none) Q c s = Q (.next a) c s :=
  rfl

@[simp] theorem wp_proceed_some (a : Activity) (st : ConnectionState) :
    wp (proceed w a (some st)) Q c s = wp (complete w a st) Q c s := rfl

/-- A move keeps `S` when each of its parts does. A listening task dispatches the head of its
queue, or takes a command, which leaves `R`, and then connects, disconnects, rests or stops; a
busy task takes a turn, which leaves `T` of its outcome, and completes its operation or goes
on. -/
theorem serveMove_triple {P R S : Controller → σ → Prop} {T : Turn → Controller → σ → Prop}
    (closed : σ → Bool) (a : Activity)
    (hdispatch : a = .listening → ∀ c s e queued, P c s → c.inbox = e :: queued →
      wp (dispatch w e) (fun _ => S) { c with inbox := queued } s)
    (htake : a = .listening → ∀ c s, P c s → c.inbox = [] → R c (w.takeCommand.run s).2)
    (hconnect : ∀ a', Triple R (connect w) fun res => wp (proceed w a' res) fun _ => S)
    (hdisconnect : ∀ a', Triple R (disconnect w) fun res => wp (proceed w a' res) fun _ => S)
    (hrest : ∀ c s, R c s → S c s)
    (hturn : a ≠ .listening → Triple P (turn w) T)
    (hcomplete : ∀ st, Triple (T (.finished st)) (complete w a st) fun _ => S)
    (hgoes : ∀ t c s, t.outcome = none → T t c s → S c s) :
    Triple P (serveMove w closed a) fun _ => S := by
  intro c s hP
  cases a with
  | listening =>
      simp only [serveMove, wp_bind, wp_get]
      split
      · rename_i e queued hin
        exact hdispatch rfl c s e queued hP hin
      · rename_i hin
        have hR := htake rfl c s hP hin
        simp only [wp_bind, wp_lift]
        split
        · exact hconnect _ c _ hR
        · exact hdisconnect _ c _ hR
        · simp only [wp_bind, wp_getWorld]
          split
          · split
            · exact hdisconnect _ c _ hR
            · exact hrest c _ hR
          · exact hrest c _ hR
  | serving _ | closing =>
      -- a busy move: the turn, then what its outcome calls for
      simp only [serveMove, wp_bind]
      refine (hturn (by simp)).wp hP fun t c' s' hT => ?_
      cases t with
      | finished st => exact hcomplete st c' s' hT
      | continues => exact hgoes _ c' s' rfl hT
      | blocked resumes => exact hgoes _ c' s' rfl hT

end Ctl

/-- The controller's task in a world whose contacts are recorded: what the task is doing, its
controller, the world's own state, the trace of contacts so far, and whether the task runs. -/
structure ControllerTask (σ : Type) where
  activity : Activity
  controller : Controller
  world : σ
  trace : List Contact
  running : Bool

namespace ControllerTask

variable {σ : Type}

def held (t : ControllerTask σ) : List RequestId :=
  match t.activity with
  | .serving r => [r]
  | _ => []

def fresh (settings : ControllerSettings) (s : σ) : ControllerTask σ :=
  ⟨.listening, .ofSettings settings, s, [], true⟩

/-- The task after a move that answered `m`, leaving the controller `c` and the recorded world
`p`: it goes on with a new activity, rests with the same one, or stops. -/
def after (t : ControllerTask σ) (m : Move) (c : Controller) (p : σ × List Contact) :
    ControllerTask σ :=
  match m with
  | .next a => ⟨a, c, p.1, p.2, true⟩
  | .rest _ => ⟨t.activity, c, p.1, p.2, true⟩
  | .stop => ⟨t.activity, c, p.1, p.2, false⟩

variable (w : World σ) (closed : σ → Bool)

/-- One move of the task in the recorded world `w`; `closed` tells from the world's own state
whether every handle is gone. -/
def move (t : ControllerTask σ) : ControllerTask σ :=
  let r := ((Ctl.serveMove w.recorded (fun p => closed p.1) t.activity).run t.controller).run
    (t.world, t.trace)
  t.after r.1.1 r.1.2 r.2

/-- The steps of a run: the task moves, an event is queued for its controller, or other tasks
change the world's own state. -/
inductive Step : ControllerTask σ → ControllerTask σ → Prop
  | move {t : ControllerTask σ} : t.running = true → Step t (t.move w closed)
  | event {t : ControllerTask σ} (e : Envelope) : t.running = true →
      Step t { t with controller := t.controller.enqueue e }
  | world {t : ControllerTask σ} (s : σ) : Step t { t with world := s }

inductive Reachable : ControllerTask σ → Prop
  | fresh (settings : ControllerSettings) (s : σ) : Reachable (fresh settings s)
  | step {t t' : ControllerTask σ} : Reachable t → Step w closed t t' → Reachable t'

/-- What holds at every point of a run. -/
structure Sound (t : ControllerTask σ) : Prop where
  consistent : t.controller.Consistent
  waits : t.controller.Waits
  /-- Every request taken is answered, waits for a teardown, or is the one the task holds. -/
  account : Answering t.held t.controller.started t.controller.waiters t.trace
  /-- Between operations nothing is awaited and no request waits. -/
  between : t.activity = .listening → t.controller.waiting = none ∧ t.controller.waiters = []
  /-- During an operation a call is awaited. -/
  busy : t.running = true → t.activity ≠ .listening → t.controller.waiting.isSome
  /-- The request an operation serves was taken as a connect, or waits for a teardown, which
  finishes idle. -/
  requester : ∀ r, t.activity = .serving r →
    Contact.take (some (.connect r)) ∈ t.trace ∨ t.controller.Leaving

/-- What a move does: the task stays sound, the trace only grows, every answer given goes to a
connect request or is given with no session left, and a session is started only by a move that
finds none. -/
structure Moved (t t' : ControllerTask σ) : Prop where
  sound : t'.Sound
  grows : t.trace <+: t'.trace
  released : ReleasedAnswers t.trace t'.controller.session t'.trace
  started : t'.controller.started = t.controller.started ∨
    t.controller.session = none ∧ t'.controller.started = t.controller.started + 1

theorem Sound.keeps {t : ControllerTask σ} (h : t.Sound) :
    Keeps t.held t.controller.started t.trace t.controller (t.world, t.trace) :=
  ⟨h.account, rfl, List.prefix_refl _, releasedAnswers_self⟩

theorem sound_fresh (settings : ControllerSettings) (s : σ) : (fresh settings s).Sound where
  consistent := consistent_ofSettings settings
  waits := .of_none rfl rfl
  account := ⟨by simp [fresh, held, ofSettings], fun _ _ h => by simp [fresh] at h,
    by simp [fresh, ofSettings]⟩
  between := fun _ => ⟨rfl, rfl⟩
  busy := fun _ h => absurd rfl h
  requester := fun _ h => by simp [fresh] at h

/-! ### One move -/

section Moves

variable {w closed}

theorem move_of_wp {t : ControllerTask σ} {P : ControllerTask σ → Prop}
    (h : Ctl.wp (Ctl.serveMove w.recorded (fun p => closed p.1) t.activity)
      (fun m c p => P (t.after m c p)) t.controller (t.world, t.trace)) :
    P (t.move w closed) := h

theorem move_spec {t : ControllerTask σ} {R : Move → Controller → List Contact → Prop}
    (h : Ctl.wp (Ctl.serveMove w.recorded (fun p => closed p.1) t.activity)
      (fun m c p => R m c p.2) t.controller (t.world, t.trace)) :
    ∃ m c s tr, t.move w closed = t.after m c (s, tr) ∧ R m c tr := by
  unfold Ctl.wp at h
  generalize hrun : ((Ctl.serveMove w.recorded (fun p => closed p.1) t.activity).run
    t.controller).run (t.world, t.trace) = run at h
  obtain ⟨⟨m, c⟩, s, tr⟩ := run
  exact ⟨m, c, s, tr, by simp only [move, hrun], h⟩

/-- A move that ends between operations, out of a controller that keeps the account with no
request held, awaits nothing and has nobody waiting. -/
theorem moved_listening {t : ControllerTask σ} {n : Nat} {c : Controller}
    {p : σ × List Contact} (running : Bool) (hk : Keeps [] n t.trace c p) (hc : c.Consistent)
    (hw : c.waiting = none) (hq : c.waiters = [])
    (hn : n = t.controller.started ∨
      t.controller.session = none ∧ n = t.controller.started + 1) :
    Moved t ⟨.listening, c, p.1, p.2, running⟩ where
  sound :=
    { consistent := hc
      waits := .of_none hw hq
      account := hk.2.1 ▸ hk.1
      between := fun _ => ⟨hw, hq⟩
      busy := fun _ h => absurd rfl h
      requester := fun _ h => by cases h }
  grows := hk.2.2.1
  released := hk.2.2.2
  started := hk.2.1 ▸ hn

/-- A move that ends in an operation for the request `r`, which was taken as a connect or waits
for a teardown. -/
theorem moved_serving {t : ControllerTask σ} {n : Nat} {c : Controller}
    {p : σ × List Contact} {r : RequestId} (hk : Keeps [r] n t.trace c p) (hc : c.Consistent)
    (hw : c.Waits) (hbusy : c.waiting.isSome)
    (hreq : Contact.take (some (.connect r)) ∈ p.2 ∨ c.Leaving)
    (hn : n = t.controller.started ∨
      t.controller.session = none ∧ n = t.controller.started + 1) :
    Moved t ⟨.serving r, c, p.1, p.2, true⟩ where
  sound :=
    { consistent := hc
      waits := hw
      account := hk.2.1 ▸ hk.1
      between := fun h => by cases h
      busy := fun _ _ => hbusy
      requester := fun _ h => by
        cases h
        exact hreq }
  grows := hk.2.2.1
  released := hk.2.2.2
  started := hk.2.1 ▸ hn

theorem moved_closing {t : ControllerTask σ} {c : Controller} {p : σ × List Contact}
    (running : Bool) (hk : Keeps [] t.controller.started t.trace c p) (hc : c.Consistent)
    (hw : c.Waits) (hbusy : running = true → c.waiting.isSome) :
    Moved t ⟨.closing, c, p.1, p.2, running⟩ where
  sound :=
    { consistent := hc
      waits := hw
      account := hk.2.1 ▸ hk.1
      between := fun h => by cases h
      busy := fun h _ => hbusy h
      requester := fun _ h => by cases h }
  grows := hk.2.2.1
  released := hk.2.2.2
  started := .inl hk.2.1

/-- A move between operations keeps the task sound: it dispatches a queued event, starts the
operation a request asks for (a connect from idle starting a session, for which no session is
present), or rests or stops, disconnecting first once every handle is gone. -/
theorem moved_of_listening (t : ControllerTask σ) (h : t.Sound) (hl : t.activity = .listening) :
    Ctl.wp (Ctl.serveMove w.recorded (fun p => closed p.1) .listening)
      (fun m c p => Moved t (t.after m c p)) t.controller (t.world, t.trace) := by
  obtain ⟨_, c, s, tr, running⟩ := t
  simp only at hl
  subst hl
  obtain ⟨hw, hq⟩ := h.between rfl
  have hk : Keeps [] c.started tr c (s, tr) := h.keeps
  simp only [Ctl.serveMove, Ctl.wp_bind, Ctl.wp_get]
  split
  · -- an event is queued: it is dispatched
    rename_i e queued _
    simp only [Ctl.wp_bind, Ctl.wp_set]
    refine ((Ctl.dispatch_keeps w [] c.started tr e _).and
      (Ctl.dispatch_consistent w.recorded e)).wp ⟨⟨rfl, hk⟩, { h.consistent with }⟩ ?_
    rintro _ c' p' ⟨⟨hk', hwait, hq'⟩, hc'⟩
    exact moved_listening true hk' hc' (hwait.trans hw) (hq'.elim (·.trans hq) id) (.inl rfl)
  simp only [Ctl.wp_bind, Ctl.wp_lift, World.recorded_takeCommand, World.noting_run]
  split
  · -- a connect request: refused at once unless idle, otherwise a session is started
    rename_i r hcmd
    simp only [Ctl.wp_bind, hcmd]
    have hheld : Keeps [r] c.started tr c ((w.takeCommand.run s).2, tr ++ [.take (some (.connect r))]) :=
      ⟨hk.1.take (.connect r), rfl, List.prefix_append _ _, releasedAnswers_self.take _⟩
    by_cases hidle : c.view.connection = .idle
    · have hs : c.session = none := h.consistent.agrees.none_iff.2 hidle
      refine ((Ctl.connect_keeps w [r] c.started _).and (Ctl.connect_consistent w.recorded)).wp
        ⟨⟨⟨hheld.1, rfl, List.prefix_refl _, releasedAnswers_self⟩, rfl, hidle, hq⟩, h.consistent⟩ ?_
      rintro res c' p' ⟨⟨hk', ho, hw'⟩, hc'⟩
      have hgrows : tr <+: p'.2 := (List.prefix_append _ _).trans hk'.2.2.1
      have htaken : Contact.take (some (.connect r)) ∈ p'.2 := hk'.2.2.1.subset (by simp)
      have hra : ReleasedAnswers tr c'.session p'.2 := hk'.2.2.2.of_append (by simp)
      cases res with
      | none =>
          exact moved_serving ⟨hk'.1, hk'.2.1, hgrows, hra⟩ hc' hw' ho (.inl htaken)
            (.inr ⟨hs, rfl⟩)
      | some st =>
          simp only [Ctl.wp_proceed_some, Ctl.wp_complete_serving, World.recorded_reply,
            World.noting_run]
          exact moved_listening true ⟨hk'.1.complete (.inr htaken), hk'.2.1,
              List.prefix_append_of_prefix hgrows, hra.reply_connect htaken st⟩ hc' ho.1 ho.2
            (.inr ⟨hs, rfl⟩)
    · rw [Ctl.wp_connect_of_not_idle w.recorded hidle]
      simp only [Ctl.wp_proceed_some, Ctl.wp_complete_serving, World.recorded_reply,
        World.noting_run]
      exact moved_listening true ⟨hk.1.answer_at_once r _, rfl, by simp,
          releasedAnswers_self.answer_at_once r _⟩ h.consistent hw hq (.inl rfl)
  · -- a disconnect request: answered idle at once with no session, otherwise a teardown
    rename_i r hcmd
    simp only [Ctl.wp_bind, hcmd]
    have hheld : Keeps [r] c.started tr c
        ((w.takeCommand.run s).2, tr ++ [.take (some (.disconnect r))]) :=
      ⟨hk.1.take (.disconnect r), rfl, List.prefix_append _ _, releasedAnswers_self.take _⟩
    refine ((Ctl.disconnect_keeps w [r] c.started tr).and (Ctl.disconnect_consistent w.recorded)).wp
      ⟨hheld, h.consistent.clearWaiters⟩ ?_
    rintro res c' p' ⟨⟨hk', hset⟩, hc'⟩
    cases res with
    | none => exact moved_serving hk' hc' hset.waits hset.over (.inr hset) (.inl rfl)
    | some st =>
        obtain ⟨rfl, hs', hw', hq'⟩ := hset
        simp only [Ctl.wp_proceed_some, Ctl.wp_complete_serving, World.recorded_reply,
          World.noting_run]
        exact moved_listening true ⟨hk'.1.complete (.inl rfl), hk'.2.1,
            List.prefix_append_of_prefix hk'.2.2.1, hs' ▸ releasedAnswers_none⟩ hc' hw' hq'
          (.inl rfl)
  · -- nobody asks anything: disconnect and stop once every handle is gone, otherwise rest
    rename_i hcmd
    simp only [hcmd]
    have hnone : Keeps [] c.started tr c ((w.takeCommand.run s).2, tr ++ [.take none]) :=
      ⟨by simpa using hk.1, rfl, List.prefix_append _ _, releasedAnswers_self.take _⟩
    simp only [Ctl.wp_bind, Ctl.wp_getWorld]
    split
    · split
      · simp only [Ctl.wp_bind]
        refine ((Ctl.disconnect_keeps w [] c.started tr).and
          (Ctl.disconnect_consistent w.recorded)).wp ⟨hnone, h.consistent.clearWaiters⟩ ?_
        rintro res c' p' ⟨⟨hk', hset⟩, hc'⟩
        cases res with
        | none => exact moved_closing true hk' hc' hset.waits fun _ => hset.over
        | some st =>
            obtain ⟨-, -, hw', hq'⟩ := hset
            exact moved_listening false hk' hc' hw' hq' (.inl rfl)
      · exact moved_listening false hnone h.consistent hw hq (.inl rfl)
    · exact moved_listening true hnone h.consistent hw hq (.inl rfl)

/-- A move during an operation is a turn of waiting, which keeps the task sound: when the
operation is over, its request is answered with the state it ended in, which is idle unless the
request was a connect. -/
theorem moved_of_busy (t : ControllerTask σ) (h : t.Sound) (hrun : t.running = true)
    (hl : t.activity ≠ .listening) :
    Ctl.wp (Ctl.serveMove w.recorded (fun p => closed p.1) t.activity)
      (fun m c p => Moved t (t.after m c p)) t.controller (t.world, t.trace) := by
  obtain ⟨a, c, s, tr, running⟩ := t
  simp only at hl hrun
  subst hrun
  have hbase := ((Ctl.turn_keeps w _ c.started tr).and (Ctl.turn_consistent w.recorded))
    c (s, tr) ⟨⟨h.keeps, h.waits⟩, h.consistent⟩
  -- a turn of a teardown's wait goes on with it, or finishes idle with the session released
  have hleaving : Ctl.wp (Ctl.turn w.recorded) (fun t c' _ => c.Leaving →
      t.outcome = none ∧ c'.Leaving ∨ t.outcome = some .idle ∧ c'.session = none) c (s, tr) := by
    by_cases hlv : c.Leaving
    · exact Ctl.wp_mono (fun _ _ _ h _ => h) (Ctl.turn_of_leaving w hlv h.consistent.toTracked)
    · exact Ctl.wp_mono (fun _ _ _ _ h => absurd h hlv) hbase
  cases a with
  | listening => exact absurd rfl hl
  | serving r =>
      simp only [Ctl.serveMove, Ctl.wp_bind]
      refine Ctl.wp_mono ?_ (Ctl.wp_and hbase hleaving)
      rintro turn c' p' ⟨⟨⟨hk', hw', ho⟩, hc'⟩, hlv'⟩
      -- the request was taken as a connect, or waits for the teardown
      have hreq : Contact.take (some (.connect r)) ∈ p'.2 ∨ c.Leaving :=
        (h.requester r rfl).imp_left (hk'.2.2.1.subset ·)
      cases turn with
      | finished st =>
          simp only [Ctl.wp_complete_serving, World.recorded_reply, World.noting_run]
          have hanswer : (st = .idle ∨ Contact.take (some (.connect r)) ∈ p'.2) ∧
              ReleasedAnswers tr c'.session (p'.2 ++ [.reply r st]) := by
            rcases hreq with ht | hlv
            · exact ⟨.inr ht, hk'.2.2.2.reply_connect ht st⟩
            · rcases hlv' hlv with ⟨ho', -⟩ | ⟨hst, hs'⟩
              · cases ho'
              · cases hst
                exact ⟨.inl rfl, hs' ▸ releasedAnswers_none⟩
          exact moved_listening true ⟨hk'.1.complete hanswer.1, hk'.2.1,
              List.prefix_append_of_prefix hk'.2.2.1, hanswer.2⟩ hc' ho.1 ho.2 (.inl rfl)
      | continues =>
          refine moved_serving hk' hc' hw' ho (hreq.imp_right fun hlv => ?_) (.inl rfl)
          rcases hlv' hlv with ⟨-, hlv''⟩ | ⟨ho', -⟩
          · exact hlv''
          · cases ho'
      | blocked resumes =>
          refine moved_serving hk' hc' hw' ho (hreq.imp_right fun hlv => ?_) (.inl rfl)
          rcases hlv' hlv with ⟨-, hlv''⟩ | ⟨ho', -⟩
          · exact hlv''
          · cases ho'
  | closing =>
      simp only [Ctl.serveMove, Ctl.wp_bind]
      refine Ctl.wp_mono ?_ hbase
      rintro turn c' p' ⟨⟨hk', hw', ho⟩, hc'⟩
      cases turn with
      | finished st => exact moved_closing false hk' hc' hw' fun h => by cases h
      | continues => exact moved_closing true hk' hc' hw' fun _ => ho
      | blocked resumes => exact moved_closing true hk' hc' hw' fun _ => ho

theorem Sound.moved {t : ControllerTask σ} (h : t.Sound) (hrun : t.running = true) :
    Moved t (t.move w closed) := by
  apply move_of_wp
  by_cases hl : t.activity = .listening
  · rw [hl]
    exact moved_of_listening t h hl
  · exact moved_of_busy t h hrun hl

theorem Sound.enqueue {t : ControllerTask σ} (h : t.Sound) (e : Envelope) :
    Sound { t with controller := t.controller.enqueue e } where
  consistent := h.consistent.enqueue e
  waits := ⟨h.waits.queued, h.waits.owned⟩
  account := h.account
  between := h.between
  busy := h.busy
  requester := h.requester

/-- Every step of a run does what a move does: an event queued or a change of the world's own
state leave the trace and the account alone. -/
theorem Sound.step {t t' : ControllerTask σ} (h : t.Sound) (hs : Step w closed t t') :
    Moved t t' := by
  cases hs with
  | move hrun => exact h.moved hrun
  | event e _ => exact ⟨h.enqueue e, List.prefix_refl _, releasedAnswers_self, .inl rfl⟩
  | world s => exact ⟨{ h with }, List.prefix_refl _, releasedAnswers_self, .inl rfl⟩

end Moves

/-! ### Every run -/

variable {w closed}

theorem Reachable.sound {t : ControllerTask σ} (ht : t.Reachable w closed) : t.Sound := by
  induction ht with
  | fresh settings s => exact sound_fresh settings s
  | step _ hs ih => exact (ih.step hs).sound

/-- The transports asked for are those of the sessions started, in order, and a step that asks
for one finds no session present and asks for exactly the next. -/
theorem Sound.creates {t t' : ControllerTask σ} (h : t.Sound) (hs : Step w closed t t')
    (hnew : creations t'.trace ≠ creations t.trace) :
    t.controller.session = none ∧
      creations t'.trace = creations t.trace ++ [⟨t.controller.started⟩] := by
  have hm := h.step hs
  rw [hm.sound.account.created, h.account.created] at hnew ⊢
  rcases hm.started with hn | ⟨hs, hn⟩
  · exact absurd (by rw [hn]) hnew
  · exact ⟨hs, by rw [hn, List.range_succ, List.map_append]; rfl⟩

theorem wp_serveMove_of_busy {a : Activity} (ha : a ≠ .listening) {c : Controller}
    {p : σ × List Contact} {Q : Move → Controller → σ × List Contact → Prop} :
    Ctl.wp (Ctl.serveMove w.recorded (fun p => closed p.1) a) Q c p =
      Ctl.wp (Ctl.turn w.recorded) (fun t => Ctl.wp (match t with
        | .finished s => Ctl.complete w.recorded a s
        | .continues => return .next a
        | .blocked resumes => return .rest resumes) Q) c p := by
  cases a with
  | listening => exact absurd rfl ha
  | serving r => rfl
  | closing => rfl

variable {t : ControllerTask σ} {r : RequestId} {b : Bool}

/-- During an operation, a connect request taken while nothing is queued and the awaited call
is pending is answered at once with the current state, and nothing else changes. -/
theorem Sound.answers_connect_at_once (h : t.Sound) (hrun : t.running = true)
    (hl : t.activity ≠ .listening) (hin : t.controller.inbox = [])
    (hpoll : (w.poll.run t.world).1 = ⟨[], .pending b⟩)
    (htake : (w.takeCommand.run (w.poll.run t.world).2).1 = some (.connect r)) :
    ∃ s', t.move w closed = ⟨t.activity, t.controller, s',
      t.trace ++ [.poll (.pending b), .take (some (.connect r)), .reply r t.controller.view.connection],
      true⟩ := by
  obtain ⟨wt, hwt⟩ := Option.isSome_iff_exists.1 (h.busy hrun hl)
  obtain ⟨m, c, s', tr', hmove, rfl, rfl, rfl⟩ := @move_spec _ w closed t
    (fun m c tr' => m = .next t.activity ∧ c = t.controller ∧
      tr' = t.trace ++ [.poll (.pending b), .take (some (.connect r)),
        .reply r t.controller.view.connection]) (by
    rw [wp_serveMove_of_busy hl]
    refine Ctl.wp_mono ?_ (Ctl.turn_answers_connect w hwt hpoll hin htake)
    rintro _ _ _ ⟨rfl, hc, htr⟩
    exact ⟨rfl, hc, htr⟩)
  exact ⟨s', hmove⟩


/-- Between operations nothing is awaited, so a task whose controller awaits a call is in an
operation. -/
theorem Sound.busy_of_waiting (h : t.Sound) {wt : Waiting} (hwt : t.controller.waiting = some wt) :
    t.activity ≠ .listening := fun hl => by
  simp [(h.between hl).1] at hwt

/-- During a connect's wait for the devices or for the session to be established, a disconnect
request taken while nothing is queued and the awaited call is pending abandons that call: the
session is tombstoned, its transport is asked to disconnect, and the request waits for that
teardown. -/
theorem Sound.abandons_connect (h : t.Sound) {id : SessionId}
    (hwt : t.controller.waiting = some (.devices id) ∨ t.controller.waiting = some (.joining id))
    (hin : t.controller.inbox = []) (hpoll : (w.poll.run t.world).1 = ⟨[], .pending b⟩)
    (htake : (w.takeCommand.run (w.poll.run t.world).2).1 = some (.disconnect r)) :
    ∃ c s', t.move w closed = ⟨t.activity, c, s',
        t.trace ++ [.poll (.pending b), .take (some (.disconnect r)), .begin id .leave], true⟩ ∧
      c.waiting = some (.leaving id .requested .disconnect) ∧ c.session = some ⟨id, true⟩ ∧
      c.waiters = [r] := by
  obtain ⟨wt, hwt, hown⟩ : ∃ wt, t.controller.waiting = some wt ∧ wt.owner = some id := by
    rcases hwt with hwt | hwt
    · exact ⟨_, hwt, rfl⟩
    · exact ⟨_, hwt, rfl⟩
  have hlive := h.waits.owned wt id hwt hown
  have hnil := h.waits.waiters_eq_nil hwt hown
  obtain ⟨m, c, s', tr', hmove, rfl, hc, rfl⟩ := @move_spec _ w closed t
    (fun m c tr' => m = .next t.activity ∧
      (c.waiting = some (.leaving id .requested .disconnect) ∧ c.session = some ⟨id, true⟩ ∧
        c.waiters = [r]) ∧
      tr' = t.trace ++ [.poll (.pending b), .take (some (.disconnect r)), .begin id .leave]) (by
    rw [wp_serveMove_of_busy (h.busy_of_waiting hwt)]
    refine Ctl.wp_mono ?_ (Ctl.turn_abandons_connect w hwt hown hlive hpoll hin htake)
    rintro _ c' p' ⟨rfl, hw', hs', hq', htr⟩
    exact ⟨rfl, ⟨hw', hs', hq'.trans (by simp [hnil])⟩, htr⟩)
  exact ⟨c, s', hmove, hc⟩

/-- The move in which a teardown's call finishes, during the operation for the request `r₀`:
the session is released, then every waiting request and `r₀` are answered idle, and the task
listens again. -/
theorem Sound.completes_teardown (h : t.Sound) {r₀ : RequestId} (ha : t.activity = .serving r₀)
    {i : SessionId} {reason : SessionEnd} {after : AfterLeave} {evs : List Event}
    {res : Except String Unit} (hwt : t.controller.waiting = some (.leaving i reason after))
    (hpoll : (w.poll.run t.world).1 = ⟨evs, .ready res⟩) :
    ∃ c s', t.move w closed = ⟨.listening, c, s',
        t.trace ++ [.poll (.ready res)] ++ t.controller.binder.release.ops.map .sink ++
          t.controller.waiters.map (fun r => .reply r .idle) ++ [.reply r₀ .idle], true⟩ ∧
      c.session = none ∧ c.waiting = none ∧ c.waiters = [] := by
  obtain ⟨m, c, s', tr', hmove, rfl, hc, rfl⟩ := @move_spec _ w closed t
    (fun m c tr' => m = .next .listening ∧ (c.session = none ∧ c.waiting = none ∧ c.waiters = []) ∧
      tr' = t.trace ++ [.poll (.ready res)] ++ t.controller.binder.release.ops.map .sink ++
        t.controller.waiters.map (fun r => .reply r .idle) ++ [.reply r₀ .idle]) (by
    rw [wp_serveMove_of_busy (h.busy_of_waiting hwt)]
    refine Ctl.wp_mono ?_ (Ctl.turn_completes_teardown w hwt hpoll)
    rintro _ c' p' ⟨rfl, hw', hq', hs', htr⟩
    simp only [ha, Ctl.wp_complete_serving, World.recorded_reply, World.noting_run]
    exact ⟨trivial, ⟨hs', hw', hq'⟩, by rw [htr]⟩)
  exact ⟨c, s', hmove, hc⟩

/-- A move of a teardown's wait whose call is still pending goes on waiting: the session stays
as it is, the requests waiting stay and new disconnect requests join them, and the only requests
answered are connect requests taken in that move. -/
theorem Sound.during_teardown (h : t.Sound) {i : SessionId}
    {reason : SessionEnd} {after : AfterLeave} {evs : List Event}
    (hwt : t.controller.waiting = some (.leaving i reason after))
    (hpoll : (w.poll.run t.world).1 = ⟨evs, .pending b⟩) :
    ∃ c s' new, t.move w closed = ⟨t.activity, c, s', t.trace ++ .poll (.pending b) :: new, true⟩ ∧
      c.waiting = t.controller.waiting ∧ c.session = t.controller.session ∧
      (∃ more, c.waiters = t.controller.waiters ++ more) ∧
      ∀ r st, Contact.reply r st ∈ new → Contact.take (some (.connect r)) ∈ new := by
  obtain ⟨a, hs, htomb⟩ := h.consistent.leaving i reason after hwt
  obtain ⟨m, c, s', tr', hmove, hm, hc, new, rfl, hnew⟩ := @move_spec _ w closed t
    (fun m c tr' => (m = .next t.activity ∨ ∃ b', m = .rest b') ∧
      (c.waiting = t.controller.waiting ∧ c.session = t.controller.session ∧
        ∃ more, c.waiters = t.controller.waiters ++ more) ∧
      ∃ new, tr' = t.trace ++ .poll (.pending b) :: new ∧
        ∀ r st, Contact.reply r st ∈ new → Contact.take (some (.connect r)) ∈ new) (by
    rw [wp_serveMove_of_busy (h.busy_of_waiting hwt)]
    refine Ctl.wp_mono ?_ (Ctl.turn_during_teardown w hwt hs htomb hpoll)
    rintro turn c' p' ⟨ho, hw', hs', hq', hnew⟩
    cases turn with
    | finished st => cases ho
    | continues => exact ⟨.inl rfl, ⟨hw', hs', hq'⟩, hnew⟩
    | blocked b' => exact ⟨.inr ⟨b', rfl⟩, ⟨hw', hs', hq'⟩, hnew⟩)
  refine ⟨c, s', new, ?_, hc.1, hc.2.1, hc.2.2, hnew⟩
  rcases hm with rfl | ⟨b', rfl⟩
  · exact hmove
  · rw [hmove]
    simp [ControllerTask.after]

theorem Sound.disconnect_answered_idle (h : t.Sound) (hnodup : (taken t.trace).Nodup)
    {st : ConnectionState} (hr : Contact.reply r st ∈ t.trace)
    (hd : Contact.take (some (.disconnect r)) ∈ t.trace) : st = .idle :=
  h.account.idle r st hr fun hc => by cases take_eq_of_nodup hnodup hc hd rfl

/-- With no request taken twice, a step that answers a disconnect request ends with no session:
such a request is answered only once its session is released. -/
theorem Sound.answered_after_release {t' : ControllerTask σ} (h : t.Sound)
    (hs : Step w closed t t') (hnodup : (taken t'.trace).Nodup) {st : ConnectionState}
    (hr : Contact.reply r st ∈ t'.trace) (hnew : Contact.reply r st ∉ t.trace)
    (hd : Contact.take (some (.disconnect r)) ∈ t'.trace) : t'.controller.session = none := by
  rcases (h.step hs).released r st hr with hold | hc | hnone
  · exact absurd hold hnew
  · cases take_eq_of_nodup hnodup hc hd rfl
  · exact hnone

theorem Sound.all_answered (h : t.Sound) (hl : t.activity = .listening) :
    t.controller.waiters = [] ∧ (taken t.trace).Perm (answered t.trace) := by
  have hq := (h.between hl).2
  have hheld : t.held = [] := by simp [held, hl]
  refine ⟨hq, ?_⟩
  simpa [hq, hheld] using h.account.balanced

theorem Sound.count_answered_le (h : t.Sound) (r : RequestId) :
    (answered t.trace).count r ≤ (taken t.trace).count r := by
  rw [h.account.balanced.count_eq, List.count_append, List.count_append]
  omega

theorem Sound.answered_nodup (h : t.Sound) (hnodup : (taken t.trace).Nodup) :
    (answered t.trace).Nodup :=
  List.nodup_iff_count_le_one.2 fun r =>
    Nat.le_trans (h.count_answered_le r) (List.nodup_iff_count_le_one.1 hnodup r)

end ControllerTask

open ControllerTask

/-- **Every request is answered once, and as the task promises.** Along every run of the controller's
task, in every world: transports are asked for in session order; a connect request taken during
an operation is answered at once; a disconnect request waits for the teardown and is answered
idle; only connect requests get other answers; and no request is answered more than it was taken. -/
theorem requests_answered_once (σ : Type) (w : World σ) (closed : σ → Bool)
    (t : ControllerTask σ) (ht : t.Reachable w closed) :
    (creations t.trace = (List.range t.controller.started).map SessionId.mk ∧
      ∀ t', Step w closed t t' → creations t'.trace ≠ creations t.trace →
        t.controller.session = none ∧
          creations t'.trace = creations t.trace ++ [⟨t.controller.started⟩]) ∧
    (∀ r b, t.running = true → t.activity ≠ .listening → t.controller.inbox = [] →
      (w.poll.run t.world).1 = ⟨[], .pending b⟩ →
      (w.takeCommand.run (w.poll.run t.world).2).1 = some (.connect r) →
      ∃ s', t.move w closed = ⟨t.activity, t.controller, s', t.trace ++
        [.poll (.pending b), .take (some (.connect r)), .reply r t.controller.view.connection],
        true⟩) ∧
    (∀ id r b,
      (t.controller.waiting = some (.devices id) ∨ t.controller.waiting = some (.joining id)) →
      t.controller.inbox = [] → (w.poll.run t.world).1 = ⟨[], .pending b⟩ →
      (w.takeCommand.run (w.poll.run t.world).2).1 = some (.disconnect r) →
      ∃ c s', t.move w closed = ⟨t.activity, c, s',
          t.trace ++ [.poll (.pending b), .take (some (.disconnect r)), .begin id .leave], true⟩ ∧
        c.waiting = some (.leaving id .requested .disconnect) ∧ c.session = some ⟨id, true⟩ ∧
        c.waiters = [r]) ∧
    (∀ i reason after evs b, t.controller.waiting = some (.leaving i reason after) →
      (w.poll.run t.world).1 = ⟨evs, .pending b⟩ →
      ∃ c s' new, t.move w closed = ⟨t.activity, c, s', t.trace ++ .poll (.pending b) :: new, true⟩ ∧
        c.waiting = t.controller.waiting ∧ c.session = t.controller.session ∧
        (∃ more, c.waiters = t.controller.waiters ++ more) ∧
        ∀ r st, Contact.reply r st ∈ new → Contact.take (some (.connect r)) ∈ new) ∧
    (∀ r₀ i reason after evs res, t.activity = .serving r₀ →
      t.controller.waiting = some (.leaving i reason after) →
      (w.poll.run t.world).1 = ⟨evs, .ready res⟩ →
      ∃ c s', t.move w closed = ⟨.listening, c, s',
          t.trace ++ [.poll (.ready res)] ++ t.controller.binder.release.ops.map .sink ++
            t.controller.waiters.map (fun r => .reply r .idle) ++ [.reply r₀ .idle], true⟩ ∧
        c.session = none ∧ c.waiting = none ∧ c.waiters = []) ∧
    (IdleAnswers t.trace ∧
      ((taken t.trace).Nodup → ∀ r st, Contact.reply r st ∈ t.trace →
        Contact.take (some (.disconnect r)) ∈ t.trace → st = .idle) ∧
      (∀ t', Step w closed t t' → (taken t'.trace).Nodup → ∀ r st, Contact.reply r st ∈ t'.trace →
        Contact.reply r st ∉ t.trace → Contact.take (some (.disconnect r)) ∈ t'.trace →
        t'.controller.session = none) ∧
      (t.controller.waiters ≠ [] → t.controller.Leaving) ∧
      (t.activity = .listening →
        t.controller.waiters = [] ∧ (taken t.trace).Perm (answered t.trace))) ∧
    (∀ r, (answered t.trace).count r ≤ (taken t.trace).count r) ∧
    ((taken t.trace).Nodup → (answered t.trace).Nodup) := by
  have h := ht.sound
  refine ⟨⟨h.account.created, fun t' hs hnew => h.creates hs hnew⟩, ?_, ?_, ?_, ?_, ?_,
    h.count_answered_le, h.answered_nodup⟩
  · intro r b hrun hl hin hpoll htake
    exact h.answers_connect_at_once hrun hl hin hpoll htake
  · intro id r b hwt hin hpoll htake
    exact h.abandons_connect hwt hin hpoll htake
  · intro i reason after evs b hwt hpoll
    exact h.during_teardown hwt hpoll
  · intro r₀ i reason after evs res ha hwt hpoll
    exact h.completes_teardown ha hwt hpoll
  · exact ⟨h.account.idle, fun hnodup r st hr hd => h.disconnect_answered_idle hnodup hr hd,
      fun t' hs hnodup r st hr hnew hd => h.answered_after_release hs hnodup hr hnew hd,
      h.waits.queued, h.all_answered⟩

/-- The spawned runtime's world, with a task just started. -/
theorem requests_answered_once_fresh :
    ControllerTask.Reachable Host.world Host.closed (ControllerTask.fresh {} ({} : Host)) ∧
      ∀ r, (answered (ControllerTask.fresh {} ({} : Host)).trace).count r ≤
        (taken (ControllerTask.fresh {} ({} : Host)).trace).count r :=
  ⟨.fresh {} ({} : Host),
    (requests_answered_once Host Host.world Host.closed _ (.fresh {} ({} : Host))).2.2.2.2.2.2.1⟩

end VoiceSession
