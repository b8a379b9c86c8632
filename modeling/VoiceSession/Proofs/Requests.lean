import VoiceSession.Proofs.Consistency
import VoiceSession.Proofs.Contacts
/-!
# Accounting for requests

`Answering` keeps the account of a trace: every request taken is answered, waits for a teardown
or is held by the host, and only a connect is answered with a state other than idle. Every
operation keeps it; `Controller.Waits` says how the controller waits.
-/

namespace VoiceSession

namespace Controller

def Leaving (c : Controller) : Prop := ∃ i reason after, c.waiting = some (.leaving i reason after)

theorem Leaving.owner {c : Controller} {wt : Waiting} (h : c.Leaving) (hwt : c.waiting = some wt) :
    wt.owner = none := by
  obtain ⟨i, reason, after, hl⟩ := h
  rw [hwt] at hl
  cases hl
  rfl

theorem not_leaving_of_owner {c : Controller} {wt : Waiting} {id : SessionId}
    (hwt : c.waiting = some wt) (hown : wt.owner = some id) : ¬c.Leaving := fun h => by
  simp [h.owner hwt] at hown

theorem leaving_of_owner_none {c : Controller} {wt : Waiting} (hwt : c.waiting = some wt)
    (hown : wt.owner = none) : c.Leaving := by
  cases wt with
  | devices id => simp [Waiting.owner] at hown
  | joining id => simp [Waiting.owner] at hown
  | leaving id reason after => exact ⟨id, reason, after, hwt⟩

theorem not_leaving_of_none {c : Controller} (h : c.waiting = none) : ¬c.Leaving := by
  rintro ⟨_, _, _, hl⟩
  simp [h] at hl

/-- How the controller waits: disconnect requests wait only for a teardown, and a connect waits
only while its session is live. -/
structure Waits (c : Controller) : Prop where
  queued : c.waiters ≠ [] → c.Leaving
  owned : ∀ wt id, c.waiting = some wt → wt.owner = some id → c.isLive id = true

theorem Waits.of_none {c : Controller} (hw : c.waiting = none) (hq : c.waiters = []) : c.Waits where
  queued := fun h => absurd hq h
  owned := fun _ _ h => by simp [hw] at h

theorem Waits.of_leaving {c : Controller} (h : c.Leaving) : c.Waits where
  queued := fun _ => h
  owned := fun _ _ hwt hown => absurd hown (by simp [h.owner hwt])

theorem Waits.waiters_eq_nil_of_none {c : Controller} (h : c.Waits) (hwt : c.waiting = none) :
    c.waiters = [] := by
  cases hws : c.waiters with
  | nil => rfl
  | cons r rs => exact absurd (h.queued (by simp [hws])) (not_leaving_of_none hwt)

theorem Waits.waiters_eq_nil {c : Controller} {wt : Waiting} {id : SessionId} (h : c.Waits)
    (hwt : c.waiting = some wt) (hown : wt.owner = some id) : c.waiters = [] := by
  cases hws : c.waiters with
  | nil => rfl
  | cons r rs => exact absurd (h.queued (by simp [hws])) (not_leaving_of_owner hwt hown)

end Controller

open Controller

/-! ### The account of a trace -/

namespace Contact

def Quiet (x : Contact) : Prop := x.taken? = none ∧ x.answered? = none ∧ x.created? = none

@[simp] theorem quiet_begin (id : SessionId) (call : Call) : (Contact.begin id call).Quiet :=
  ⟨rfl, rfl, rfl⟩
@[simp] theorem quiet_poll (st : PollStatus) : (Contact.poll st).Quiet := ⟨rfl, rfl, rfl⟩
@[simp] theorem quiet_tracks (id : SessionId) : (Contact.tracks id).Quiet := ⟨rfl, rfl, rfl⟩
@[simp] theorem quiet_sink (op : SinkOp) : (Contact.sink op).Quiet := ⟨rfl, rfl, rfl⟩
@[simp] theorem quiet_take_none : (Contact.take none).Quiet := ⟨rfl, rfl, rfl⟩

end Contact

def IdleAnswers (tr : List Contact) : Prop :=
  ∀ r st, Contact.reply r st ∈ tr → Contact.take (some (.connect r)) ∉ tr → st = .idle

/-- The account of a trace, for a controller with `waiters` waiting and `n` sessions started,
whose host holds the requests `held`. -/
structure Answering (held : List RequestId) (n : Nat) (waiters : List RequestId)
    (tr : List Contact) : Prop where
  /-- Every request taken is answered, waiting for a teardown, or held by the host. -/
  balanced : (taken tr).Perm (answered tr ++ waiters ++ held)
  /-- Only a connect request is answered with a state other than idle. -/
  idle : IdleAnswers tr
  /-- The transports asked for are those of the sessions started, in order. -/
  created : creations tr = (List.range n).map SessionId.mk

section Account

variable {held waiters : List RequestId} {n : Nat} {tr new : List Contact}

theorem IdleAnswers.append (h : IdleAnswers tr)
    (hnew : ∀ r st, Contact.reply r st ∈ new →
      st = .idle ∨ Contact.take (some (.connect r)) ∈ tr ++ new) :
    IdleAnswers (tr ++ new) := by
  intro r st hr hnot
  rcases List.mem_append.1 hr with hr | hr
  · exact h r st hr fun ht => hnot (List.mem_append_left _ ht)
  · rcases hnew r st hr with hidle | ht
    · exact hidle
    · exact absurd ht hnot

theorem answering_append_quiet_iff (hq : ∀ x ∈ new, x.Quiet) :
    Answering held n waiters (tr ++ new) ↔ Answering held n waiters tr := by
  have ht : taken new = [] := List.filterMap_eq_nil_iff.2 fun x hx => (hq x hx).1
  have ha : answered new = [] := List.filterMap_eq_nil_iff.2 fun x hx => (hq x hx).2.1
  have hc : creations new = [] := List.filterMap_eq_nil_iff.2 fun x hx => (hq x hx).2.2
  have hreply : ∀ r st, Contact.reply r st ∉ new := fun r st hx => by
    simpa [Contact.answered?] using (hq _ hx).2.1
  have htake : ∀ cmd, Contact.take (some cmd) ∉ new := fun cmd hx => by
    simpa [Contact.taken?] using (hq _ hx).1
  constructor
  · rintro ⟨hb, hi, hcr⟩
    refine ⟨by simpa [ht, ha] using hb, fun r st hr hnot => hi r st (List.mem_append_left _ hr) ?_,
      by simpa [hc] using hcr⟩
    intro hx
    rcases List.mem_append.1 hx with hx | hx
    · exact hnot hx
    · exact htake _ hx
  · rintro ⟨hb, hi, hcr⟩
    refine ⟨by simpa [ht, ha] using hb, hi.append fun r st hr => absurd hr (hreply r st), ?_⟩
    simpa [hc] using hcr

@[simp] theorem answering_append_quiet {x : Contact} (hx : x.Quiet) :
    Answering held n waiters (tr ++ [x]) ↔ Answering held n waiters tr :=
  answering_append_quiet_iff (by simpa using hx)

@[simp] theorem answering_append_sinks (ops : List SinkOp) :
    Answering held n waiters (tr ++ ops.map .sink) ↔ Answering held n waiters tr :=
  answering_append_quiet_iff (by simp)

theorem Answering.notify (h : Answering held n waiters tr) {st : ConnectionState}
    (hst : st = .idle) : Answering held n [] (tr ++ waiters.map fun r => .reply r st) where
  balanced := by simpa using h.balanced
  idle := h.idle.append fun r st' hr => by
    obtain ⟨_, _, hr⟩ := List.mem_map.1 hr
    cases hr
    exact .inl hst
  created := by simpa using h.created

theorem Answering.answer_at_once (h : Answering held n waiters tr) (r : RequestId)
    (st : ConnectionState) :
    Answering held n waiters (tr ++ [.take (some (.connect r))] ++ [.reply r st]) where
  balanced := by
    have hswap : (answered tr ++ waiters ++ held ++ [r]).Perm (answered tr ++ [r] ++ waiters ++ held) := by
      have h1 : (waiters ++ held ++ [r]).Perm ([r] ++ (waiters ++ held)) := List.perm_append_comm
      simpa only [List.append_assoc] using h1.append_left (answered tr)
    simpa [Contact.taken?, Contact.answered?, Command.request] using
      (h.balanced.append_right [r]).trans hswap
  idle := by
    rw [List.append_assoc]
    refine h.idle.append fun r' st' hr => ?_
    simp only [List.singleton_append, List.mem_cons, reduceCtorEq, Contact.reply.injEq,
      List.not_mem_nil, or_false, false_or] at hr
    obtain ⟨rfl, -⟩ := hr
    exact .inr (by simp)
  created := by simpa [Contact.created?] using h.created

theorem Answering.hold (h : Answering held n waiters tr) (r : RequestId) :
    Answering held n (waiters ++ [r]) (tr ++ [.take (some (.disconnect r))]) where
  balanced := by
    have hswap : (answered tr ++ waiters ++ held ++ [r]).Perm (answered tr ++ (waiters ++ [r]) ++ held) := by
      have h1 : (held ++ [r]).Perm ([r] ++ held) := List.perm_append_comm
      simpa only [List.append_assoc] using (h1.append_left waiters).append_left (answered tr)
    simpa [Contact.taken?, Contact.answered?, Command.request] using
      (h.balanced.append_right [r]).trans hswap
  idle := h.idle.append fun r' st' hr => by simp at hr
  created := by simpa [Contact.created?] using h.created

theorem Answering.take (h : Answering [] n waiters tr) (cmd : Command) :
    Answering [cmd.request] n waiters (tr ++ [.take (some cmd)]) where
  balanced := by simpa [Contact.taken?, Contact.answered?] using h.balanced.append_right [cmd.request]
  idle := h.idle.append fun r' st' hr => by simp at hr
  created := by simpa [Contact.created?] using h.created

theorem Answering.complete {r : RequestId} (h : Answering [r] n waiters tr) {st : ConnectionState}
    (hst : st = .idle ∨ Contact.take (some (.connect r)) ∈ tr) :
    Answering [] n waiters (tr ++ [.reply r st]) where
  balanced := by
    have hswap : (answered tr ++ waiters ++ [r]).Perm (answered tr ++ [r] ++ waiters ++ []) := by
      have h1 : (waiters ++ [r]).Perm ([r] ++ waiters) := List.perm_append_comm
      simpa only [List.append_assoc, List.append_nil] using h1.append_left (answered tr)
    simpa [Contact.taken?, Contact.answered?] using h.balanced.trans hswap
  idle := h.idle.append fun r' st' hr => by
    simp only [List.mem_singleton, Contact.reply.injEq] at hr
    obtain ⟨rfl, rfl⟩ := hr
    rcases hst with hst | hst
    · exact .inl hst
    · exact .inr (List.mem_append_left _ hst)
  created := by simpa [Contact.created?] using h.created

theorem Answering.create (h : Answering held n waiters tr) (res : Except String Unit) :
    Answering held (n + 1) waiters (tr ++ [.create ⟨n⟩ res]) where
  balanced := by simpa [Contact.taken?, Contact.answered?] using h.balanced
  idle := h.idle.append fun r' st' hr => by simp at hr
  created := by simp [Contact.created?, h.created, List.range_succ]

/-- Every answer given since `tr₀` went to a request taken as a connect, or was given with no
session present: a disconnect request is answered only once its session is released. -/
def ReleasedAnswers (tr₀ : List Contact) (session : Option Active) (tr : List Contact) : Prop :=
  ∀ r st, Contact.reply r st ∈ tr → Contact.reply r st ∈ tr₀ ∨
    Contact.take (some (.connect r)) ∈ tr ∨ session = none

variable {tr₀ : List Contact} {session : Option Active}

theorem releasedAnswers_self : ReleasedAnswers tr session tr := fun _ _ h => .inl h

theorem releasedAnswers_none : ReleasedAnswers tr₀ none tr := fun _ _ _ => .inr (.inr rfl)

/-- While a session is present, every answer since `tr₀` went to a connect request, whatever
becomes of the session. -/
theorem ReleasedAnswers.present {a : Active} (h : ReleasedAnswers tr₀ (some a) tr)
    (session' : Option Active) : ReleasedAnswers tr₀ session' tr := fun r st hr => by
  rcases h r st hr with h | h | h
  · exact .inl h
  · exact .inr (.inl h)
  · cases h

theorem ReleasedAnswers.append (h : ReleasedAnswers tr₀ session tr)
    (hnew : ∀ r st, Contact.reply r st ∉ new) : ReleasedAnswers tr₀ session (tr ++ new) := by
  intro r st hr
  rcases List.mem_append.1 hr with hr | hr
  · exact (h r st hr).imp_right (Or.imp_left (List.mem_append_left _))
  · exact absurd hr (hnew r st)

theorem releasedAnswers_append_quiet_iff (hq : ∀ x ∈ new, x.Quiet) :
    ReleasedAnswers tr₀ session (tr ++ new) ↔ ReleasedAnswers tr₀ session tr := by
  have hreply : ∀ r st, Contact.reply r st ∉ new := fun r st hx => by
    simpa [Contact.answered?] using (hq _ hx).2.1
  have htake : ∀ cmd, Contact.take (some cmd) ∉ new := fun cmd hx => by
    simpa [Contact.taken?] using (hq _ hx).1
  refine ⟨fun h r st hr => ?_, fun h => h.append hreply⟩
  rcases h r st (List.mem_append_left _ hr) with h | h | h
  · exact .inl h
  · rcases List.mem_append.1 h with h | h
    · exact .inr (.inl h)
    · exact absurd h (htake _)
  · exact .inr (.inr h)

@[simp] theorem releasedAnswers_append_quiet {x : Contact} (hx : x.Quiet) :
    ReleasedAnswers tr₀ session (tr ++ [x]) ↔ ReleasedAnswers tr₀ session tr :=
  releasedAnswers_append_quiet_iff (by simpa using hx)

@[simp] theorem releasedAnswers_append_sinks (ops : List SinkOp) :
    ReleasedAnswers tr₀ session (tr ++ ops.map .sink) ↔ ReleasedAnswers tr₀ session tr :=
  releasedAnswers_append_quiet_iff (by simp)

theorem ReleasedAnswers.take (h : ReleasedAnswers tr₀ session tr) (cmd : Option Command) :
    ReleasedAnswers tr₀ session (tr ++ [.take cmd]) :=
  h.append fun r st hx => by simp at hx

theorem ReleasedAnswers.reply_connect (h : ReleasedAnswers tr₀ session tr) {r : RequestId}
    (ht : Contact.take (some (.connect r)) ∈ tr) (st : ConnectionState) :
    ReleasedAnswers tr₀ session (tr ++ [.reply r st]) := by
  intro r' st' hr
  rcases List.mem_append.1 hr with hr | hr
  · exact (h r' st' hr).imp_right (Or.imp_left (List.mem_append_left _))
  · simp only [List.mem_singleton, Contact.reply.injEq] at hr
    obtain ⟨rfl, -⟩ := hr
    exact .inr (.inl (List.mem_append_left _ ht))

theorem ReleasedAnswers.answer_at_once (h : ReleasedAnswers tr₀ session tr) (r : RequestId)
    (st : ConnectionState) :
    ReleasedAnswers tr₀ session (tr ++ [.take (some (.connect r))] ++ [.reply r st]) :=
  (h.take _).reply_connect (by simp) st

theorem ReleasedAnswers.of_append (h : ReleasedAnswers (tr₀ ++ new) session tr)
    (hnew : ∀ r st, Contact.reply r st ∉ new) : ReleasedAnswers tr₀ session tr := fun r st hr => by
  rcases h r st hr with h | h | h
  · rcases List.mem_append.1 h with h | h
    · exact .inl h
    · exact absurd h (hnew r st)
  · exact .inr (.inl h)
  · exact .inr (.inr h)

end Account

/-! ### How operations end -/

namespace Controller

/-- A finished operation leaves nothing awaited and no request waiting; one that is not finished
awaits a call. -/
def Over : Option ConnectionState → Controller → Prop
  | some _, c => c.waiting = none ∧ c.waiters = []
  | none, c => c.waiting.isSome

/-- A teardown finished idle, with the session released, nothing awaited and no request
waiting, or it awaits the transport's disconnect. -/
def Settled : Option ConnectionState → Controller → Prop
  | some st, c => st = .idle ∧ c.session = none ∧ c.waiting = none ∧ c.waiters = []
  | none, c => c.Leaving

theorem Settled.over {res : Option ConnectionState} {c : Controller} (h : Settled res c) :
    Over res c := by
  cases res with
  | some st => exact h.2.2
  | none =>
      obtain ⟨i, reason, after, hl⟩ := h
      simp [Over, hl]

theorem Over.of_waiting {c : Controller} {wt : Waiting} (h : c.waiting = some wt) : Over none c := by
  simp [Over, h]

theorem Settled.waits {res : Option ConnectionState} {c : Controller} (h : Settled res c) :
    c.Waits := by
  cases res with
  | some st => exact .of_none h.2.2.1 h.2.2.2
  | none => exact .of_leaving h

end Controller

/-! ### Every operation keeps the account -/

/-- The controller `c`, with the trace kept in the world state `p`, keeps the account for the
requests `held` by its host, having started `n` sessions; the trace extends `tr₀`, and every
answer given since went to a connect request or was given with no session present. -/
def Keeps {σ : Type} (held : List RequestId) (n : Nat) (tr₀ : List Contact) (c : Controller)
    (p : σ × List Contact) : Prop :=
  Answering held n c.waiters p.2 ∧ c.started = n ∧ tr₀ <+: p.2 ∧
    ReleasedAnswers tr₀ c.session p.2

namespace Ctl

variable {σ : Type} (w : World σ)

theorem wp_dispatch_of_not_live {Q : Unit → Controller → σ → Prop} {c : Controller} {s : σ}
    {e : Envelope} (h : c.isLive e.session = false) : wp (dispatch w e) Q c s = Q () c s := by
  simp [dispatch, h]

theorem wp_forIn_dispatch_of_no_session {es : List Envelope} {Q : PUnit → Controller → σ → Prop}
    {c : Controller} {s : σ} (h : c.session = none) :
    wp (forIn es PUnit.unit fun e _ => do dispatch w e; pure (ForInStep.yield PUnit.unit)) Q c s =
      Q PUnit.unit c s := by
  induction es with
  | nil => rfl
  | cons e es ih =>
      have hlive : c.isLive e.session = false := by simp [Controller.isLive, h]
      simp only [List.forIn_cons, wp_bind, wp_dispatch_of_not_live w hlive, wp_pure]
      exact ih

theorem wp_processPending_of_no_session {Q : Nat → Controller → σ → Prop} {c : Controller}
    {s : σ} (h : c.session = none) :
    wp (processPending w) Q c s = Q c.inbox.length { c with inbox := [] } s := by
  simp only [processPending, wp_bind, wp_get, wp_modify]
  rw [wp_forIn_dispatch_of_no_session w (by simpa using h)]
  rfl

variable (held : List RequestId) (n : Nat) (tr₀ : List Contact)

/-- Releasing the session: the sink is released and every waiting request answered idle, in that
order, and nothing else is contacted; no session is left, the state is idle, and what is awaited
and queued stays as it was. -/
theorem releaseSession_recorded (reason : SessionEnd) (c₀ : Controller) (tr : List Contact) :
    Triple (fun c p => c = c₀ ∧ p.2 = tr) (releaseSession w.recorded reason)
      (fun _ c p => c.session = none ∧ c.view.connection = .idle ∧ c.waiters = [] ∧
        c.waiting = c₀.waiting ∧ c.inbox = c₀.inbox ∧ c.started = c₀.started ∧
        p.2 = tr ++ c₀.binder.release.ops.map .sink ++ c₀.waiters.map fun r => .reply r .idle) := by
  rintro c ⟨s, tr⟩ ⟨rfl, rfl⟩
  simp only [releaseSession, wp_bind, wp_modify, wp_useBinder, wp_modifyView, wp_setState,
    wp_notifyWaiters, World.recorded_sink, World.recorded_reply, World.forM_noting]
  simp

theorem releaseSession_keeps (reason : SessionEnd) (c₀ : Controller) :
    Triple (fun c p => c = c₀ ∧ Keeps held n tr₀ c p) (releaseSession w.recorded reason)
      (fun _ c p => Keeps held n tr₀ c p ∧ c.session = none ∧ c.view.connection = .idle ∧
        c.waiters = [] ∧ c.waiting = c₀.waiting ∧ c.inbox = c₀.inbox) := by
  rintro c p ⟨rfl, h, hn, hpre, -⟩
  refine (releaseSession_recorded w reason c p.2).wp ⟨rfl, rfl⟩ ?_
  rintro _ c' p' ⟨hs, hidle, hq, hw, hin, hst, htr⟩
  refine ⟨⟨?_, hst.trans hn, by simp [htr, List.prefix_append_of_prefix, hpre],
    hs ▸ releasedAnswers_none⟩, hs, hidle, hq, hw, hin⟩
  have hsinks : Answering held n c.waiters (p.2 ++ c.binder.release.ops.map .sink) := by
    simpa using h
  rw [htr, hq]
  exact hsinks.notify rfl

/-- What a dispatch keeps from the controller `c₀` it starts from: the account, what is awaited,
and the waiting requests, all of them or, once the session is released, none. -/
def Dispatched (c₀ : Controller) (c : Controller) (p : σ × List Contact) : Prop :=
  Keeps held n tr₀ c p ∧ c.waiting = c₀.waiting ∧ (c.waiters = c₀.waiters ∨ c.waiters = [])

theorem Dispatched.trans {c₀ c₁ c₂ : Controller} {p₁ p₂ : σ × List Contact}
    (h₁ : Dispatched held n tr₀ c₀ c₁ p₁) (h₂ : Dispatched held n tr₀ c₁ c₂ p₂) :
    Dispatched held n tr₀ c₀ c₂ p₂ := by
  obtain ⟨-, hw₁, hq₁⟩ := h₁
  obtain ⟨hk, hw₂, hq₂⟩ := h₂
  refine ⟨hk, hw₂.trans hw₁, ?_⟩
  rcases hq₂ with hq₂ | hq₂
  · rcases hq₁ with hq₁ | hq₁
    · exact .inl (hq₂.trans hq₁)
    · exact .inr (hq₂.trans hq₁)
  · exact .inr hq₂

/-- A dispatch keeps the account and what is awaited; it answers waiting requests only by
releasing the session, and then all of them. -/
theorem dispatch_keeps (e : Envelope) (c₀ : Controller) :
    Triple (fun c p => c = c₀ ∧ Keeps held n tr₀ c p) (dispatch w.recorded e)
      (fun _ => Dispatched held n tr₀ c₀) := by
  rintro c ⟨s, tr⟩ ⟨rfl, h, hn, hpre, hra⟩
  simp only [dispatch, wp_bind, wp_isLive]
  cases hlive : c.isLive e.session
  · simpa [Dispatched, Keeps] using ⟨h, hn, hpre, hra⟩
  obtain ⟨id, ev⟩ := e
  cases ev
  case disconnected =>
    simp only [Bool.not_true, Bool.false_eq_true, if_false, wp_bind, wp_modify]
    refine (releaseSession_keeps w held n tr₀ .remote _).wp ⟨rfl, h, hn, hpre, hra⟩ ?_
    rintro _ c' p' ⟨hk, -, -, hq, hw, -⟩
    simp only [wp_bind, wp_setStatus, wp_publish]
    exact ⟨hk, hw, .inr hq⟩
  -- every other event shows, logs, operates the sink or asks for the tracks: contacts that take,
  -- answer and create nothing
  all_goals
    simp only [Bool.not_true, Bool.false_eq_true, if_false, wp_bind, wp_modify, wp_setState,
      wp_setStatus, wp_modifyView, wp_publish, wp_log, wp_useBinder, wp_reconcileTracks, wp_ite,
      World.recorded_tracks, World.recorded_sink, World.forM_noting, World.noting_run,
      answering_append_quiet, answering_append_sinks, releasedAnswers_append_quiet,
      releasedAnswers_append_sinks, Contact.quiet_tracks, Dispatched, Keeps, ite_self, true_or,
      and_true, true_and, List.prefix_append_of_prefix, hpre]
    exact ⟨h, hn, hra⟩

theorem processPending_keeps (c₀ : Controller) :
    Triple (fun c p => c = c₀ ∧ Keeps held n tr₀ c p) (processPending w.recorded)
      (fun _ => Dispatched held n tr₀ c₀) := by
  rintro c p ⟨rfl, h⟩
  simp only [processPending, wp_bind, wp_get, wp_modify]
  have hstep : ∀ e ∈ c.inbox, Triple (Dispatched held n tr₀ c) (dispatch w.recorded e)
      (fun _ => Dispatched held n tr₀ c) := fun e _ c' p' hd =>
    (dispatch_keeps w held n tr₀ e c').wp ⟨rfl, hd.1⟩ fun _ _ _ hd' => hd.trans held n tr₀ hd'
  exact (Triple.forIn hstep).wp ⟨h, rfl, .inl rfl⟩ fun _ _ _ hd => hd

/-- With the session released, what follows a teardown finishes at once in the current state and
contacts nobody: the events queued meanwhile are dropped. -/
theorem afterLeave_of_no_session {τ : Type} (v : World τ) (after : AfterLeave) (c₀ : Controller)
    (s₀ : τ) :
    Triple (fun c s => c = c₀ ∧ s = s₀ ∧ c₀.session = none) (afterLeave v after)
      (fun res c s => res = some c₀.view.connection ∧ c.waiting = none ∧ c.waiters = c₀.waiters ∧
        c.session = none ∧ c.started = c₀.started ∧ c.view.lastEnd = c₀.view.lastEnd ∧ s = s₀) := by
  rintro c s ⟨rfl, rfl, hs⟩
  cases after with
  | disconnect =>
      simp only [afterLeave, wp_bind, wp_setStatus, wp_processPending_of_no_session, hs, wp_publish,
        wp_finish]
      simp
  | failedConnect =>
      simp only [afterLeave, wp_bind, wp_processPending_of_no_session, hs, wp_finish]
      simp

theorem afterLeave_keeps (after : AfterLeave) :
    Triple (fun c p => Keeps held n tr₀ c p ∧ c.session = none ∧ c.view.connection = .idle ∧
        c.waiters = [])
      (afterLeave w.recorded after) (fun res c p => Keeps held n tr₀ c p ∧ Settled res c) := by
  rintro c p ⟨⟨h, hn, hpre, -⟩, hs, hidle, hq⟩
  refine (afterLeave_of_no_session w.recorded after c p).wp ⟨rfl, rfl, hs⟩ ?_
  rintro res c' p' ⟨rfl, hw, hq', hs', hst, -, rfl⟩
  exact ⟨⟨hq' ▸ h, hst.trans hn, hpre, hs' ▸ releasedAnswers_none⟩, hidle, hs', hw, hq'.trans hq⟩

theorem teardown_keeps (reason : SessionEnd) (after : AfterLeave) :
    Triple (fun c p => Keeps held n tr₀ c p) (teardown w.recorded reason after)
      (fun res c p => Keeps held n tr₀ c p ∧ Settled res c) := by
  rintro c ⟨s, tr⟩ h
  simp only [teardown, wp_bind, wp_get]
  cases hs : c.session with
  | none =>
      simp only [wp_bind]
      refine (releaseSession_keeps w held n tr₀ reason c).wp ⟨rfl, h⟩ ?_
      rintro _ _ _ ⟨hk, hs', hidle, hq, -, -⟩
      exact (afterLeave_keeps w held n tr₀ after).wp ⟨hk, hs', hidle, hq⟩ fun _ _ _ h => h
  | some a =>
      obtain ⟨h, hn, hpre, hra⟩ := h
      rw [hs] at hra
      simp only [wp_bind, wp_modify, wp_await, World.recorded_begin, World.noting_run, Keeps,
        answering_append_quiet, releasedAnswers_append_quiet, Contact.quiet_begin,
        List.prefix_append_of_prefix, hpre]
      exact ⟨⟨h, hn, trivial, hra.present _⟩, _, _, _, rfl⟩

theorem failConnect_keeps (f : Failure) :
    Triple (fun c p => Keeps held n tr₀ c p) (failConnect w.recorded f)
      (fun res c p => Keeps held n tr₀ c p ∧ Settled res c) := by
  intro c p h
  simp only [failConnect, wp_bind, wp_log, wp_setState, wp_setStatus]
  exact (teardown_keeps w held n tr₀ .connectFailed .failedConnect).wp h fun _ _ _ h => h

/-- A disconnect keeps the account: with no session it answers the waiting requests idle and
finishes, otherwise it tears the session down. -/
theorem disconnect_keeps :
    Triple (fun c p => Keeps held n tr₀ c p) (disconnect w.recorded)
      (fun res c p => Keeps held n tr₀ c p ∧ Settled res c) := by
  rintro c ⟨s, tr⟩ ⟨h, hn, hpre, hra⟩
  simp only [disconnect, wp_bind, wp_get]
  split
  · rename_i hcase
    simp only [Bool.and_eq_true, beq_iff_eq, Controller.state, Option.isNone_iff_eq_none] at hcase
    obtain ⟨hidle, hs⟩ := hcase
    simp only [wp_bind, wp_notifyWaiters, World.recorded_reply, World.forM_noting, wp_finish]
    exact ⟨⟨h.notify hidle, hn, List.prefix_append_of_prefix hpre, hs ▸ releasedAnswers_none⟩,
      hidle, hs, rfl, rfl⟩
  · simp only [wp_bind, wp_setState]
    exact (teardown_keeps w held n tr₀ .requested .disconnect).wp ⟨h, hn, hpre, hra⟩
      fun _ _ _ h => h

theorem wp_connect_of_not_idle {Q : Option ConnectionState → Controller → σ → Prop}
    {c : Controller} {s : σ} (h : c.view.connection ≠ .idle) :
    wp (connect w) Q c s = Q (some c.view.connection) c s := by
  simp [connect, Controller.state, ConnectionState.canConnect, h]

/-- A connect from idle asks for the transport of the next session, and the account counts one
more session; the connect then fails and tears down, or awaits the devices of a live session. The
account of answers starts with the connect. -/
theorem connect_keeps :
    Triple (fun c p => Keeps held n tr₀ c p ∧ p.2 = tr₀ ∧ c.view.connection = .idle ∧
        c.waiters = [])
      (connect w.recorded) (fun res c p => Keeps held (n + 1) tr₀ c p ∧ Over res c ∧ c.Waits) := by
  rintro c ⟨s, tr⟩ ⟨⟨h, hn, hpre, hra⟩, htr, hidle, hq⟩
  subst hn
  simp only at htr
  subst htr
  simp only [connect, wp_bind, wp_get, Controller.state, hidle, ConnectionState.canConnect,
    beq_self_eq_true, Bool.not_true, Bool.false_eq_true, if_false, wp_modify, wp_modifyView,
    wp_setState, wp_lift, World.recorded_create, World.noting_run]
  have hcreated := h.create ((w.create ⟨c.started⟩).run s).1
  split
  · refine (failConnect_keeps w held (c.started + 1) tr _).wp
      ⟨hcreated, by simp, List.prefix_append_of_prefix hpre, hra.append (by simp)⟩ ?_
    rintro _ _ _ ⟨hk, hset⟩
    exact ⟨hk, hset.over, hset.waits⟩
  · -- the session is new, and nothing was answered since the connect began
    simp only [wp_bind, wp_modify, wp_modifyView, wp_publish, wp_await, World.recorded_begin,
      World.noting_run, Keeps, answering_append_quiet, releasedAnswers_append_quiet,
      Contact.quiet_begin, List.prefix_append_of_prefix, hpre]
    refine ⟨⟨hcreated, by simp, trivial, releasedAnswers_self.append (by simp)⟩, rfl, ?_, ?_⟩
    · exact fun hne => absurd hq hne
    · rintro wt id hwt hown
      cases hwt
      cases hown
      simp [Controller.isLive]

theorem endedWhileConnecting_keeps :
    Triple (fun c p => Keeps held n tr₀ c p ∧ c.waiters = []) (endedWhileConnecting w.recorded)
      (fun res c p => Keeps held n tr₀ c p ∧ Over res c ∧ c.Waits) := by
  rintro c p ⟨h, hq⟩
  simp only [endedWhileConnecting, wp_bind]
  refine (processPending_keeps w held n tr₀ c).wp ⟨rfl, h⟩ ?_
  rintro _ c' p' ⟨hk, -, hq'⟩
  have hnil : c'.waiters = [] := hq'.elim (·.trans hq) fun h => h
  simp only [wp_finish]
  exact ⟨hk, ⟨rfl, hnil⟩, .of_none rfl hnil⟩

/-- Going on after the awaited call keeps the account; a connect's next step awaits a live
session, and what follows a teardown finishes idle. -/
theorem resume_keeps (wt : Waiting) (r : Except String Unit) :
    Triple (fun c p => Keeps held n tr₀ c p ∧ (wt.owner.isSome → c.waiters = []))
      (resume w.recorded wt r)
      (fun res c p => Keeps held n tr₀ c p ∧ Over res c ∧ c.Waits ∧
        (wt.owner = none → Settled res c)) := by
  rintro c p ⟨h, hq⟩
  simp only [resume, wp_bind, wp_modify]
  rcases wt with id | id | ⟨id, reason, after⟩ <;> rcases r with e | ⟨⟩
  case devices.error | joining.error =>
    simp only [wp_bind, wp_isLive]
    split
    · refine (failConnect_keeps w held n tr₀ _).wp h ?_
      rintro _ _ _ ⟨hk, hset⟩
      exact ⟨hk, hset.over, hset.waits, fun h => by simp [Waiting.owner] at h⟩
    · refine (endedWhileConnecting_keeps w held n tr₀).wp ⟨h, hq rfl⟩ ?_
      rintro _ _ _ ⟨hk, ho, hw⟩
      exact ⟨hk, ho, hw, fun h => by simp [Waiting.owner] at h⟩
  case devices.ok =>
    simp only [wp_bind, wp_isLive]
    split
    · rename_i hlive
      obtain ⟨h, hn, hpre, hra⟩ := h
      simp only [wp_bind, wp_get, wp_await, World.recorded_begin, World.noting_run, Keeps,
        answering_append_quiet, releasedAnswers_append_quiet, Contact.quiet_begin]
      refine ⟨⟨h, hn, List.prefix_append_of_prefix hpre, hra⟩, rfl,
        ⟨fun hne => absurd (hq rfl) hne, ?_⟩, fun h => by simp [Waiting.owner] at h⟩
      rintro wt id' hwt hown
      cases hwt
      cases hown
      exact hlive
    · refine (endedWhileConnecting_keeps w held n tr₀).wp ⟨h, hq rfl⟩ ?_
      rintro _ _ _ ⟨hk, ho, hw⟩
      exact ⟨hk, ho, hw, fun h => by simp [Waiting.owner] at h⟩
  case joining.ok =>
    simp only [wp_bind]
    refine (processPending_keeps w held n tr₀ _).wp ⟨rfl, h⟩ ?_
    rintro _ c' p' ⟨hk, -, hq'⟩
    have hnil : c'.waiters = [] := hq'.elim (·.trans (hq rfl)) fun h => h
    simp only [wp_finish]
    exact ⟨hk, ⟨rfl, hnil⟩, .of_none rfl hnil, fun h => by simp [Waiting.owner] at h⟩
  all_goals
    -- the teardown is over: the session is released and what follows it finishes idle
    simp only [wp_bind, wp_log]
    refine (releaseSession_keeps w held n tr₀ reason _).wp ⟨rfl, h⟩ ?_
    rintro _ _ _ ⟨hk, hs, hidle, hq', -, -⟩
    refine (afterLeave_keeps w held n tr₀ after).wp ⟨hk, hs, hidle, hq'⟩ ?_
    rintro _ _ _ ⟨hk, hset⟩
    exact ⟨hk, hset.over, hset.waits, fun _ => hset⟩

def Turn.outcome : Turn → Option ConnectionState
  | .finished st => some st
  | _ => none

@[simp] theorem Turn.outcome_ofStep (res : Option ConnectionState) :
    (Turn.ofStep res).outcome = res := by
  cases res <;> rfl

theorem Over.ofStep {res : Option ConnectionState} {c : Controller} (h : Over res c) :
    Over (Turn.ofStep res).outcome c := by
  simpa using h

/-- A turn of waiting keeps the account and how the controller waits; a turn that finds the
operation over leaves nothing awaited and no request waiting, and one that does not leaves a call
awaited. -/
theorem turn_keeps :
    Triple (fun c p => Keeps held n tr₀ c p ∧ c.Waits) (turn w.recorded)
      (fun t c p => Keeps held n tr₀ c p ∧ c.Waits ∧ Over t.outcome c) := by
  rintro c ⟨s, tr⟩ ⟨⟨h, hn, hpre, hra⟩, hw⟩
  simp only [turn, wp_bind, wp_get]
  split
  · -- nothing is awaited: the operation is over
    rename_i hwt
    simp only [wp_bind, wp_state, wp_pure]
    exact ⟨⟨h, hn, hpre, hra⟩, hw, hwt, hw.waiters_eq_nil_of_none hwt⟩
  rename_i wt hwt
  simp only [wp_bind, wp_lift, World.recorded_poll, World.noting_run, wp_forIn_enqueue]
  have hpoll : Answering held n c.waiters (tr ++ [.poll (w.poll.run s).1.status]) := by
    simpa using h
  have hpolled : tr₀ <+: tr ++ [.poll (w.poll.run s).1.status] := List.prefix_append_of_prefix hpre
  have hext : ∀ new, tr₀ <+: tr ++ [.poll (w.poll.run s).1.status] ++ new := fun _ =>
    List.prefix_append_of_prefix hpolled
  have hrpoll : ReleasedAnswers tr₀ c.session (tr ++ [.poll (w.poll.run s).1.status]) := by
    simpa using hra
  -- the waiting requests, if any, wait for a teardown
  have hconnect : ∀ id, wt.owner = some id → c.waiters = [] := fun id hown =>
    hw.waiters_eq_nil hwt hown
  split
  · -- the call finished: go on from it
    simp only [wp_bind]
    refine (resume_keeps w held n tr₀ wt _).wp ⟨⟨hpoll, hn, hpolled, hrpoll⟩, fun hown => ?_⟩ ?_
    · obtain ⟨id, hid⟩ := Option.isSome_iff_exists.1 hown
      exact hconnect id hid
    · rintro res c' p' ⟨hk, ho, hw', -⟩
      exact ⟨hk, hw', Over.ofStep ho⟩
  simp only [wp_bind, wp_get]
  split
  · -- an event is queued: dispatch it, and stop a connect whose session it ended
    simp only [wp_bind, wp_modify]
    refine (dispatch_keeps w held n tr₀ _ _).wp ⟨rfl, hpoll, hn, hpolled, hrpoll⟩ ?_
    rintro _ c' p' ⟨hk, hwait, hq⟩
    split
    · rename_i id hown
      have hnil : c'.waiters = [] := hq.elim (·.trans (hconnect id hown)) fun h => h
      simp only [wp_bind, wp_isLive]
      split
      · rename_i hlive
        simp only [wp_pure]
        refine ⟨hk, ⟨fun hne => absurd hnil hne, ?_⟩, Over.of_waiting (hwait.trans hwt)⟩
        intro wt' id' hwt' hown'
        rw [hwait, hwt] at hwt'
        cases hwt'
        rw [hown] at hown'
        cases hown'
        exact hlive
      · simp only [wp_bind, wp_modify]
        refine (endedWhileConnecting_keeps w held n tr₀).wp ⟨hk, hnil⟩ ?_
        rintro res c'' p'' ⟨hk', ho, hw'⟩
        exact ⟨hk', hw', Over.ofStep ho⟩
    · rename_i hown
      exact ⟨hk, .of_leaving (leaving_of_owner_none (hwait.trans hwt) hown),
        Over.of_waiting (hwait.trans hwt)⟩
  -- nothing is queued: take a request
  simp only [wp_bind, wp_lift, World.recorded_takeCommand, World.noting_run]
  split
  · -- a connect request is answered at once
    rename_i r hcmd
    simp only [wp_bind, wp_state, wp_lift, World.recorded_reply, World.noting_run, wp_pure, hcmd]
    exact ⟨⟨hpoll.answer_at_once r _, hn, List.prefix_append_of_prefix (hext _),
      hrpoll.answer_at_once r _⟩, { hw with }, Over.of_waiting hwt⟩
  · -- a disconnect request waits; during a connect it abandons the connect and disconnects
    rename_i r hcmd
    simp only [wp_bind, wp_modify, hcmd]
    have hheld := hpoll.hold r
    split
    · simp only [wp_bind, wp_modify]
      refine (disconnect_keeps w held n tr₀).wp ⟨hheld, hn, hext _, hrpoll.take _⟩ ?_
      rintro res c' p' ⟨hk, hset⟩
      exact ⟨hk, hset.waits, Over.ofStep hset.over⟩
    · rename_i hown
      have hleaving : c.Leaving := leaving_of_owner_none hwt (by simpa using hown)
      exact ⟨⟨hheld, hn, hext _, hrpoll.take _⟩, .of_leaving hleaving, Over.of_waiting hwt⟩
  · -- nobody asks anything
    rename_i hcmd
    simp only [wp_pure, hcmd, Keeps, answering_append_quiet, releasedAnswers_append_quiet,
      Contact.quiet_take_none]
    exact ⟨⟨hpoll, hn, hext _, hrpoll⟩, { hw with }, Over.of_waiting hwt⟩

/-! ### Turns that take a request, and turns of a teardown

The turns the account cannot tell apart are computed exactly: what a request taken during a
wait does, and how a teardown's wait goes on and ends. -/

variable {c : Controller} {s : σ} {tr : List Contact} {r : RequestId} {b : Bool}

/-- During a wait, with nothing queued and the call still pending, a connect request is answered
at once with the current state, and nothing else changes. -/
theorem turn_answers_connect {wt : Waiting} (hwt : c.waiting = some wt)
    (hpoll : (w.poll.run s).1 = ⟨[], .pending b⟩) (hin : c.inbox = [])
    (htake : (w.takeCommand.run (w.poll.run s).2).1 = some (.connect r)) :
    wp (turn w.recorded) (fun t c' p' => t = .continues ∧ c' = c ∧
      p'.2 = tr ++ [.poll (.pending b), .take (some (.connect r)), .reply r c.view.connection])
      c (s, tr) := by
  simp only [turn, wp_bind, wp_get, hwt, wp_lift, World.recorded_poll, World.noting_run,
    wp_forIn_enqueue, hpoll, List.map_nil, List.append_nil, hin, World.recorded_takeCommand,
    htake, wp_state, World.recorded_reply, wp_pure]
  refine ⟨trivial, ?_, by simp⟩
  cases c
  simp only at hwt hin
  subst hwt hin
  rfl

/-- During a connect's wait, with nothing queued and the call still pending, a disconnect
request abandons the call: the session is tombstoned, its transport asked to disconnect, and the
request waits for that teardown. -/
theorem turn_abandons_connect {wt : Waiting} {id : SessionId} (hwt : c.waiting = some wt)
    (hown : wt.owner = some id) (hlive : c.isLive id = true)
    (hpoll : (w.poll.run s).1 = ⟨[], .pending b⟩) (hin : c.inbox = [])
    (htake : (w.takeCommand.run (w.poll.run s).2).1 = some (.disconnect r)) :
    wp (turn w.recorded) (fun t c' p' => t = .continues ∧
      c'.waiting = some (.leaving id .requested .disconnect) ∧ c'.session = some ⟨id, true⟩ ∧
      c'.waiters = c.waiters ++ [r] ∧
      p'.2 = tr ++ [.poll (.pending b), .take (some (.disconnect r)), .begin id .leave])
      c (s, tr) := by
  obtain ⟨a, ha, rfl, htomb⟩ := isLive_iff.1 hlive
  simp only [turn, wp_bind, wp_get, hwt, wp_lift, World.recorded_poll, World.noting_run,
    wp_forIn_enqueue, hpoll, List.map_nil, List.append_nil, hin, World.recorded_takeCommand,
    htake, wp_modify, hown, Option.isSome_some, if_true, disconnect, Controller.state, ha,
    Option.isNone_some, Bool.and_false, Bool.false_eq_true, if_false, wp_setState, teardown,
    wp_await, World.recorded_begin, Waiting.session, wp_pure, Turn.ofStep]
  exact ⟨trivial, trivial, trivial, trivial, by simp⟩

/-- A teardown's wait ends when its call finishes, however it finished: the session is released,
every waiting request is answered idle, and the operation finishes idle. -/
theorem turn_completes_teardown {i : SessionId} {reason : SessionEnd} {after : AfterLeave}
    {evs : List Event} {res : Except String Unit} (hwt : c.waiting = some (.leaving i reason after))
    (hpoll : (w.poll.run s).1 = ⟨evs, .ready res⟩) :
    wp (turn w.recorded) (fun t c' p' => t = .finished .idle ∧ c'.waiting = none ∧
      c'.waiters = [] ∧ c'.session = none ∧
      p'.2 = tr ++ [.poll (.ready res)] ++ c.binder.release.ops.map .sink ++
        c.waiters.map fun r => .reply r .idle)
      c (s, tr) := by
  simp only [turn, wp_bind, wp_get, hwt, wp_lift, World.recorded_poll, World.noting_run,
    wp_forIn_enqueue, hpoll, resume, wp_modify]
  -- a failed disconnect is only logged; either way the session is released and what follows runs
  have hrelease : ∀ c₁ : Controller, c₁.waiters = c.waiters → c₁.binder = c.binder →
      wp (do releaseSession w.recorded reason; afterLeave w.recorded after)
        (fun res' c' p' => Turn.ofStep res' = .finished .idle ∧ c'.waiting = none ∧
          c'.waiters = [] ∧ c'.session = none ∧
          p'.2 = tr ++ [.poll (.ready res)] ++ c.binder.release.ops.map .sink ++
            c.waiters.map fun r => .reply r .idle)
        c₁ ((w.poll.run s).2, tr ++ [.poll (.ready res)]) := by
    intro c₁ hq hb
    simp only [wp_bind]
    refine (releaseSession_recorded w reason c₁ _).wp ⟨rfl, rfl⟩ ?_
    rintro _ c₂ p₂ ⟨hs, hidle, hq₂, -, -, -, htr⟩
    refine (afterLeave_of_no_session w.recorded after c₂ p₂).wp ⟨rfl, rfl, hs⟩ ?_
    rintro res' c₃ p₃ ⟨rfl, hw₃, hq₃, hs₃, -, -, rfl⟩
    refine ⟨by simp [Turn.ofStep, hidle], hw₃, hq₃.trans hq₂, hs₃, ?_⟩
    rw [htr, hq, hb]
  rcases res with e | ⟨⟩
  · simp only [wp_bind, wp_log]
    exact hrelease _ rfl rfl
  · exact hrelease _ rfl rfl

/-- A teardown's wait goes on while its call is pending: the queued events are dropped, since the
session is tombstoned, a connect request is answered at once, and a disconnect request joins those
waiting; no waiting request is answered and nothing else changes. -/
theorem turn_during_teardown {i : SessionId} {reason : SessionEnd} {after : AfterLeave}
    {a : Active} {evs : List Event} (hwt : c.waiting = some (.leaving i reason after))
    (hs : c.session = some a) (htomb : a.tombstoned = true)
    (hpoll : (w.poll.run s).1 = ⟨evs, .pending b⟩) :
    wp (turn w.recorded) (fun t c' p' => t.outcome = none ∧
      c'.waiting = c.waiting ∧ c'.session = c.session ∧ (∃ more, c'.waiters = c.waiters ++ more) ∧
      ∃ new, p'.2 = tr ++ .poll (.pending b) :: new ∧
        ∀ r st, Contact.reply r st ∈ new → Contact.take (some (.connect r)) ∈ new)
      c (s, tr) := by
  simp only [turn, wp_bind, wp_get, hwt, wp_lift, World.recorded_poll, World.noting_run,
    wp_forIn_enqueue, hpoll]
  split
  · -- an event is queued: it is dropped
    simp only [wp_bind, wp_modify, wp_dispatch_of_not_live, Controller.isLive, hs, htomb,
      Bool.not_true, Bool.and_false, Waiting.owner, wp_pure]
    exact ⟨rfl, trivial, trivial, ⟨[], by simp⟩, [], by simp, by simp⟩
  simp only [wp_bind, wp_lift, World.recorded_takeCommand, World.noting_run]
  split
  · rename_i r hcmd
    simp only [wp_bind, wp_state, wp_lift, World.recorded_reply, World.noting_run, wp_pure, hcmd]
    refine ⟨rfl, trivial, trivial, ⟨[], by simp⟩,
      [.take (some (.connect r)), .reply r c.view.connection], by simp, ?_⟩
    intro r' st hr
    simp only [List.mem_cons, reduceCtorEq, Contact.reply.injEq, List.not_mem_nil, or_false,
      false_or] at hr
    obtain ⟨rfl, -⟩ := hr
    simp
  · rename_i r hcmd
    simp only [wp_bind, wp_modify, hcmd, Waiting.owner, Option.isSome_none, Bool.false_eq_true,
      if_false, wp_pure]
    exact ⟨rfl, trivial, trivial, ⟨[r], rfl⟩, [.take (some (.disconnect r))], by simp, by simp⟩
  · rename_i hcmd
    simp only [wp_pure, hcmd]
    exact ⟨rfl, trivial, trivial, ⟨[], by simp⟩, [.take none], by simp, by simp⟩

/-- A turn of a teardown's wait goes on waiting for it, or finishes idle with the session
released. -/
theorem turn_of_leaving (hl : c.Leaving) (ht : c.Tracked) :
    wp (turn w.recorded) (fun t c' _ => t.outcome = none ∧ c'.Leaving ∨
      t.outcome = some .idle ∧ c'.session = none) c (s, tr) := by
  obtain ⟨i, reason, after, hwt⟩ := hl
  obtain ⟨a, hs, htomb⟩ := ht.leaving i reason after hwt
  rcases hp : (w.poll.run s).1 with ⟨evs, status⟩
  cases status with
  | ready res =>
      refine wp_mono ?_ (turn_completes_teardown w hwt hp)
      rintro t _ _ ⟨ht, -, -, hs', -⟩
      exact .inr ⟨by simp [ht, Turn.outcome], hs'⟩
  | pending b =>
      refine wp_mono ?_ (turn_during_teardown w hwt hs htomb hp)
      rintro _ _ _ ⟨ho, hw', -⟩
      exact .inl ⟨ho, i, reason, after, hw'.trans hwt⟩

end Ctl

end VoiceSession
