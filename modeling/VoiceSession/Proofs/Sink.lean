import VoiceSession.Proofs.Serving
import VoiceSession.Proofs.DirectRuns
/-!
# The audio sink follows the binder

`SinkHistory` says which sink operations the controller can make, and `Controller.Mirrors` that
the sink operations of the trace form one, ending with the track the binder holds; every
operation keeps it. Each attach and release of a dispatch has its cause (`dispatch_sink_caused`).
-/

namespace VoiceSession

namespace Contact

@[simp] def sinkOp? : Contact → Option SinkOp
  | .sink op => some op
  | _ => none

end Contact

def sinkOps (tr : List Contact) : List SinkOp := tr.filterMap Contact.sinkOp?

section SinkOps

variable {tr tr' : List Contact}

@[simp] theorem sinkOps_nil : sinkOps [] = [] := rfl

@[simp] theorem sinkOps_append : sinkOps (tr ++ tr') = sinkOps tr ++ sinkOps tr' :=
  List.filterMap_append

@[simp] theorem sinkOps_cons (x : Contact) : sinkOps (x :: tr) = x.sinkOp?.toList ++ sinkOps tr := by
  cases x <;> simp [sinkOps, List.filterMap_cons]

@[simp] theorem sinkOps_map_sink (ops : List SinkOp) : sinkOps (ops.map .sink) = ops := by
  induction ops <;> simp [*]

@[simp] theorem sinkOps_map_reply (rs : List RequestId) (st : ConnectionState) :
    sinkOps (rs.map fun r => .reply r st) = [] := by
  induction rs <;> simp [*]

end SinkOps

/-- Operations the controller can make on a sink that played nothing, leaving it playing the
track given. -/
inductive SinkHistory : List SinkOp → Option Track → Prop
  | nil : SinkHistory [] none
  | attach {ops : List SinkOp} {p : Option Track} {t : Track} : SinkHistory ops p →
      t.isRemoteAudio = true → p.map Track.id ≠ some t.id → SinkHistory (ops ++ [.attach [t]]) (some t)
  | release {ops : List SinkOp} {t : Track} :
      SinkHistory ops (some t) → SinkHistory (ops ++ [.release]) none

namespace SinkHistory

variable {ops : List SinkOp} {b : Binder}

theorem remote {t : Track} (h : SinkHistory ops (some t)) : t.isRemoteAudio = true := by
  cases h with
  | attach _ ht _ => exact ht

theorem after_bind (h : SinkHistory ops b.bound) {t : Track} (ht : t.isRemoteAudio = true) :
    SinkHistory (ops ++ (b.bind t).ops) (b.bind t).binder.bound := by
  unfold Binder.bind
  split
  · rename_i u hu
    split
    · simpa [hu] using h
    · rename_i hne
      exact .attach (hu ▸ h) ht (by simpa using hne)
  · rename_i hu
    exact .attach (hu ▸ h) ht (by simp)

theorem after_reconcile (h : SinkHistory ops b.bound) (ts : List Track) :
    SinkHistory (ops ++ (b.reconcile ts).ops) (b.reconcile ts).binder.bound := by
  unfold Binder.reconcile
  split
  · rename_i t ht
    exact h.after_bind (List.find?_some ht)
  · simpa using h

theorem after_release (h : SinkHistory ops b.bound) :
    SinkHistory (ops ++ b.release.ops) b.release.binder.bound := by
  unfold Binder.release
  split
  · rename_i t ht
    exact .release (ht ▸ h)
  · simpa using h

end SinkHistory

namespace Binder

variable {b : Binder} {op : SinkOp}

theorem mem_release_ops : op ∈ b.release.ops ↔ op = .release ∧ b.bound.isSome := by
  unfold release
  split <;> simp_all

theorem mem_bind_ops {t : Track} (h : op ∈ (b.bind t).ops) : op = .attach [t] := by
  unfold bind at h
  split at h
  · split at h <;> simp_all
  · simp_all

theorem mem_reconcile_ops {ts : List Track} (h : op ∈ (b.reconcile ts).ops) :
    ∃ t, ts.find? Track.isRemoteAudio = some t ∧ op = .attach [t] := by
  unfold reconcile at h
  split at h
  · rename_i t ht
    exact ⟨t, ht, mem_bind_ops h⟩
  · simp at h

theorem release_quiet (h : b.release.ops = []) : b.release.binder = b := by
  unfold release at *
  split <;> simp_all

theorem bind_quiet {t : Track} (h : (b.bind t).ops = []) : (b.bind t).binder = b := by
  unfold bind at *
  split
  · split <;> simp_all
  · simp_all

theorem reconcile_quiet {ts : List Track} (h : (b.reconcile ts).ops = []) :
    (b.reconcile ts).binder = b := by
  unfold reconcile at *
  split
  · rename_i t _
    exact bind_quiet (by simpa [*] using h)
  · rfl

end Binder

namespace Controller

/-- The sink operations of a trace form a history that leaves the sink playing the track the
binder holds. -/
def Mirrors (c : Controller) (tr : List Contact) : Prop := SinkHistory (sinkOps tr) c.binder.bound

def Dormant (c : Controller) : Prop := ∀ id, c.isLive id = false

theorem dormant_of_none {c : Controller} (h : c.session = none) : c.Dormant := by
  intro id
  simp [isLive, h]

end Controller

open Controller

def Unattached (tr₀ tr : List Contact) : Prop :=
  ∃ new, tr = tr₀ ++ new ∧ ∀ ts, Contact.sink (.attach ts) ∉ new

theorem unattached_self (tr : List Contact) : Unattached tr tr := ⟨[], by simp, by simp⟩

theorem Unattached.append {tr₀ tr more : List Contact} (h : Unattached tr₀ tr)
    (hmore : ∀ ts, Contact.sink (.attach ts) ∉ more) : Unattached tr₀ (tr ++ more) := by
  obtain ⟨new, rfl, hnew⟩ := h
  refine ⟨new ++ more, by simp, fun ts hm => ?_⟩
  rcases List.mem_append.1 hm with h | h
  exacts [hnew ts h, hmore ts h]

/-- An event on which the controller binds the first remote audio track its transport knows: the
transport becoming ready, or the bot. -/
def Event.Reconciles (ev : Event) : Prop :=
  ev = .transportStateChanged .ready ∨ ∃ data, ev = .botReady data

/-- Why a dispatch of `e` by the controller `c`, with the world in state `s`, may operate the
sink with `op`: an attach plays a single remote audio track of the live session, started by a
participant that is not local or found first among its transport's tracks when it reconciles;
a release ends a live session that the transport reported gone, with a track bound. -/
def SinkCause {σ : Type} (w : World σ) (s : σ) (c : Controller) (e : Envelope) : SinkOp → Prop
  | .attach ts => c.isLive e.session = true ∧ ∃ t, ts = [t] ∧ t.isRemoteAudio = true ∧
      ((∃ p, e.event = .trackStarted t p ∧ p.isLocal = false) ∨
        (e.event.Reconciles ∧ ((w.tracks e.session).run s).1.find? Track.isRemoteAudio = some t))
  | .release => c.isLive e.session = true ∧ e.event = .disconnected ∧ c.binder.bound.isSome

/-- What a dispatch of `e` by `c`, from the world state `s` and the trace `tr`, did to the sink,
leaving the binder `b` and the trace `tr'`: each sink operation it made has its cause, and if it
made none the binder is as it was. -/
def Caused {σ : Type} (w : World σ) (s : σ) (c : Controller) (e : Envelope) (tr : List Contact)
    (b : Binder) (tr' : List Contact) : Prop :=
  ∃ new, tr' = tr ++ new ∧ (∀ op, Contact.sink op ∈ new → SinkCause w s c e op) ∧
    ((∀ op, Contact.sink op ∉ new) → b = c.binder)

section Caused

variable {σ : Type} {w : World σ} {s : σ} {c : Controller} {e : Envelope} {tr : List Contact}

theorem caused_self : Caused w s c e tr c.binder tr := ⟨[], by simp, by simp, fun _ => rfl⟩

/-- A binder operation between contacts that leave the sink alone, whose sink operations all
have their cause. -/
theorem Caused.outcome {o : Binder.Outcome} {b : Binder} {tr' : List Contact} (pre post : List Contact)
    (htr : tr' = tr ++ pre ++ o.ops.map .sink ++ post) (hb : b = o.binder)
    (hpre : ∀ op, Contact.sink op ∉ pre) (hpost : ∀ op, Contact.sink op ∉ post)
    (hcause : ∀ op ∈ o.ops, SinkCause w s c e op) (hquiet : o.ops = [] → o.binder = c.binder) :
    Caused w s c e tr b tr' := by
  subst htr hb
  refine ⟨pre ++ o.ops.map .sink ++ post, by simp, fun op hop => ?_, fun hnone => hquiet ?_⟩
  · simp only [List.mem_append, List.mem_map, Contact.sink.injEq, exists_eq_right] at hop
    rcases hop with (h | h) | h
    exacts [absurd h (hpre op), hcause op h, absurd h (hpost op)]
  · exact List.eq_nil_iff_forall_not_mem.2 fun op hop => hnone op (by simp [hop])

end Caused

/-! ### The sink plays what the binder holds -/

namespace Ctl

variable {σ : Type} (w : World σ)

theorem useBinder_mirrors (f : Binder → Binder.Outcome)
    (hf : ∀ {ops b}, SinkHistory ops b.bound → SinkHistory (ops ++ (f b).ops) (f b).binder.bound) :
    Triple (fun c p => c.Mirrors p.2) (useBinder w.recorded f) (fun _ c p => c.Mirrors p.2) := by
  rintro c ⟨s, tr⟩ h
  simp only [wp_useBinder, World.recorded_sink, World.forM_noting]
  simpa [Mirrors] using hf h

theorem releaseSession_mirrors (reason : SessionEnd) :
    Triple (fun c p => c.Mirrors p.2) (releaseSession w.recorded reason)
      (fun _ c p => c.Mirrors p.2 ∧ c.binder.bound = none) := by
  rintro c ⟨s, tr⟩ h
  simp only [releaseSession, wp_bind, wp_modify, wp_useBinder, wp_modifyView, wp_setState,
    wp_notifyWaiters, World.recorded_sink, World.recorded_reply, World.forM_noting]
  have hrel : c.binder.release.binder.bound = none := by
    unfold Binder.release
    split <;> simp_all
  refine ⟨?_, hrel⟩
  simpa [Mirrors] using h.after_release

/-- Ending a session releases the sink exactly once if a track was bound, and not at all
otherwise. -/
theorem releaseSession_sink (reason : SessionEnd) (b : Binder) (tr : List Contact) :
    Triple (fun c p => c.binder = b ∧ p.2 = tr) (releaseSession w.recorded reason)
      (fun _ c p => c.binder.bound = none ∧
        ∃ new, p.2 = tr ++ new ∧ sinkOps new = if b.bound.isSome then [.release] else []) := by
  rintro c ⟨s, tr⟩ ⟨rfl, rfl⟩
  simp only [releaseSession, wp_bind, wp_modify, wp_useBinder, wp_modifyView, wp_setState,
    wp_notifyWaiters, World.recorded_sink, World.recorded_reply, World.forM_noting]
  refine ⟨?_, c.binder.release.ops.map .sink ++ c.waiters.map fun r => .reply r .idle,
    by simp, ?_⟩ <;> unfold Binder.release <;> split <;> simp_all

theorem dispatch_mirrors (e : Envelope) :
    Triple (fun c p => c.Mirrors p.2) (dispatch w.recorded e) (fun _ c p => c.Mirrors p.2) := by
  rintro c ⟨s, tr⟩ h
  cases hlive : c.isLive e.session
  · rw [wp_dispatch_of_not_live w.recorded hlive]
    exact h
  obtain ⟨id, ev⟩ := e
  simp only [dispatch, wp_bind, wp_isLive, hlive, Bool.not_true, Bool.false_eq_true, if_false,
    wp_modify]
  cases ev
  case disconnected =>
    simp only [wp_bind]
    exact (releaseSession_mirrors w .remote).wp h fun _ _ _ h' => by
      simp only [wp_bind, wp_setStatus, wp_publish]
      exact h'.1
  -- the sink is operated by binding a started track, or the first remote audio track known
  case trackStarted t p =>
    simp only [wp_ite]
    split
    · rename_i hguard
      simp only [Bool.and_eq_true, Bool.not_eq_eq_eq_not, Bool.not_true] at hguard
      simp only [wp_bind]
      exact (useBinder_mirrors w (·.bind t) fun h => h.after_bind hguard.2).wp h
        fun _ _ _ h' => by simp only [wp_publish]; exact h'
    · simpa [Mirrors] using h
  case transportStateChanged st =>
    simp only [wp_bind, wp_modifyView, wp_setStatus, wp_ite]
    split
    · simp only [wp_reconcileTracks, World.recorded_tracks, World.recorded_sink,
        World.forM_noting, World.noting_run, wp_publish]
      simpa [Mirrors] using h.after_reconcile _
    · simpa [Mirrors] using h
  case botReady data =>
    simp only [wp_bind, wp_log, wp_reconcileTracks, World.recorded_tracks, World.recorded_sink,
      World.forM_noting, World.noting_run, wp_publish]
    simpa [Mirrors] using h.after_reconcile _
  case userTranscript t =>
    simp only [wp_ite]
    split <;> simpa [Mirrors] using h
  all_goals simpa [Mirrors] using h

theorem processPending_mirrors :
    Triple (fun c p => c.Mirrors p.2) (processPending w.recorded) (fun _ c p => c.Mirrors p.2) := by
  intro c p h
  simp only [processPending, wp_bind, wp_get, wp_modify]
  exact (Triple.forIn fun e _ => dispatch_mirrors w e).wp h fun _ _ _ h => h

theorem afterLeave_mirrors (after : AfterLeave) :
    Triple (fun c p => c.Mirrors p.2) (afterLeave w.recorded after) (fun _ c p => c.Mirrors p.2) := by
  intro c p h
  cases after with
  | disconnect =>
      simp only [afterLeave, wp_bind, wp_setStatus]
      exact (processPending_mirrors w).wp h fun _ _ _ h => h
  | failedConnect =>
      simp only [afterLeave, wp_bind]
      exact (processPending_mirrors w).wp h fun _ _ _ h => h

theorem teardown_mirrors (reason : SessionEnd) (after : AfterLeave) :
    Triple (fun c p => c.Mirrors p.2) (teardown w.recorded reason after)
      (fun _ c p => c.Mirrors p.2) := by
  rintro c ⟨s, tr⟩ h
  simp only [teardown, wp_bind, wp_get]
  cases c.session with
  | none =>
      simp only [wp_bind]
      exact (releaseSession_mirrors w reason).wp h fun _ _ _ h' =>
        (afterLeave_mirrors w after).wp h'.1 fun _ _ _ h => h
  | some a =>
      simp only [wp_bind, wp_modify, wp_await, World.recorded_begin, World.noting_run]
      simpa [Mirrors] using h

theorem failConnect_mirrors (f : Failure) :
    Triple (fun c p => c.Mirrors p.2) (failConnect w.recorded f) (fun _ c p => c.Mirrors p.2) := by
  intro c p h
  simp only [failConnect, wp_bind, wp_log, wp_setState, wp_setStatus]
  exact (teardown_mirrors w .connectFailed .failedConnect).wp h fun _ _ _ h => h

theorem disconnect_mirrors :
    Triple (fun c p => c.Mirrors p.2) (disconnect w.recorded) (fun _ c p => c.Mirrors p.2) := by
  rintro c ⟨s, tr⟩ h
  simp only [disconnect, wp_bind, wp_get]
  split
  · simp only [wp_bind, wp_notifyWaiters, wp_finish, World.recorded_reply, World.forM_noting]
    simpa [Mirrors] using h
  · simp only [wp_bind, wp_setState]
    exact (teardown_mirrors w .requested .disconnect).wp h fun _ _ _ h => h

theorem connect_mirrors :
    Triple (fun c p => c.Mirrors p.2) (connect w.recorded) (fun _ c p => c.Mirrors p.2) := by
  rintro c ⟨s, tr⟩ h
  simp only [connect, wp_bind, wp_get]
  split
  · exact h
  simp only [wp_bind, wp_modify, wp_modifyView, wp_setState, wp_lift, World.recorded_create,
    World.noting_run]
  split
  · exact (failConnect_mirrors w _).wp (by simpa [Mirrors] using h) fun _ _ _ h => h
  · simp only [wp_bind, wp_modify, wp_modifyView, wp_publish, wp_await, World.recorded_begin,
      World.noting_run]
    simpa [Mirrors] using h

theorem endedWhileConnecting_mirrors :
    Triple (fun c p => c.Mirrors p.2) (endedWhileConnecting w.recorded)
      (fun _ c p => c.Mirrors p.2) := by
  intro c p h
  simp only [endedWhileConnecting, wp_bind]
  exact (processPending_mirrors w).wp h fun _ _ _ h => h

theorem resume_mirrors (wt : Waiting) (r : Except String Unit) :
    Triple (fun c p => c.Mirrors p.2) (resume w.recorded wt r) (fun _ c p => c.Mirrors p.2) := by
  rintro c ⟨s, tr⟩ h
  simp only [resume, wp_bind, wp_modify]
  rcases wt with id | id | ⟨id, reason, after⟩ <;> rcases r with e | ⟨⟩
  · simp only [wp_bind, wp_isLive]
    split
    · exact (failConnect_mirrors w _).wp h fun _ _ _ h => h
    · exact (endedWhileConnecting_mirrors w).wp h fun _ _ _ h => h
  · simp only [wp_bind, wp_isLive]
    split
    · simp only [wp_bind, wp_get, wp_await, World.recorded_begin, World.noting_run]
      simpa [Mirrors] using h
    · exact (endedWhileConnecting_mirrors w).wp h fun _ _ _ h => h
  · simp only [wp_bind, wp_isLive]
    split
    · exact (failConnect_mirrors w _).wp h fun _ _ _ h => h
    · exact (endedWhileConnecting_mirrors w).wp h fun _ _ _ h => h
  · simp only [wp_bind]
    exact (processPending_mirrors w).wp h fun _ _ _ h => h
  all_goals
    simp only [wp_bind, wp_log]
    exact (releaseSession_mirrors w reason).wp h fun _ _ _ h' =>
      (afterLeave_mirrors w after).wp h'.1 fun _ _ _ h => h

theorem turn_mirrors :
    Triple (fun c p => c.Mirrors p.2) (turn w.recorded) (fun _ c p => c.Mirrors p.2) := by
  rintro c ⟨s, tr⟩ h
  simp only [turn, wp_bind, wp_get]
  split
  · exact h
  rename_i wt _
  simp only [wp_bind, wp_lift, wp_forIn_enqueue, World.recorded_poll, World.noting_run]
  -- the poll operates nothing, and queueing its events leaves the binder alone
  have hpoll : Mirrors { c with inbox := c.inbox ++ (w.poll.run s).1.emitted.map fun e => ⟨wt.session, e⟩ }
      (tr ++ [Contact.poll (w.poll.run s).1.status]) := by
    simpa [Mirrors] using h
  split
  · simp only [wp_bind]
    exact (resume_mirrors w wt _).wp hpoll fun _ _ _ h => h
  simp only [wp_bind, wp_get]
  split
  · simp only [wp_bind, wp_modify]
    refine (dispatch_mirrors w _).wp hpoll fun _ c' _ h' => ?_
    split
    · simp only [wp_bind, wp_isLive]
      split
      · exact h'
      · simp only [wp_bind, wp_modify]
        exact (endedWhileConnecting_mirrors w).wp h' fun _ _ _ h => h
    · exact h'
  simp only [wp_bind, wp_lift, World.recorded_takeCommand, World.noting_run]
  split
  · simp only [wp_bind, wp_state, wp_lift, World.recorded_reply, World.noting_run, wp_pure]
    simpa [Mirrors] using hpoll
  · simp only [wp_bind, wp_modify]
    split
    · simp only [wp_bind, wp_modify]
      exact (disconnect_mirrors w).wp (by simpa [Mirrors] using hpoll) fun _ _ _ h => h
    · simpa [Mirrors] using hpoll
  · simpa [Mirrors] using hpoll

theorem complete_mirrors (a : Activity) (st : ConnectionState) :
    Triple (fun c p => c.Mirrors p.2) (complete w.recorded a st) (fun _ c p => c.Mirrors p.2) := by
  rintro c ⟨s, tr⟩ h
  cases a with
  | serving r =>
      simp only [complete, wp_bind, wp_lift, World.recorded_reply, World.noting_run, wp_pure]
      simpa [Mirrors] using h
  | closing => exact h
  | listening => exact h

theorem proceed_mirrors (a : Activity) (res : Option ConnectionState) :
    Triple (fun c p => c.Mirrors p.2) (proceed w.recorded a res) (fun _ c p => c.Mirrors p.2) := by
  cases res with
  | some st => exact complete_mirrors w a st
  | none => exact fun _ _ h => h

theorem serveMove_mirrors (closed : σ × List Contact → Bool) (a : Activity) :
    Triple (fun c p => c.Mirrors p.2) (serveMove w.recorded closed a)
      (fun _ c p => c.Mirrors p.2) :=
  -- taking a command records a contact that is no sink operation
  serveMove_triple w.recorded closed a
    (fun _ _ _ e _ h _ => (dispatch_mirrors w e).wp h fun _ _ _ h => h)
    (fun _ c p h _ => by simpa [Mirrors] using h)
    (fun _ _ _ h => (connect_mirrors w).wp h fun res _ _ h' => proceed_mirrors w _ res _ _ h')
    (fun _ _ _ h => (disconnect_mirrors w).wp h fun res _ _ h' => proceed_mirrors w _ res _ _ h')
    (fun _ _ h => h) (fun _ => turn_mirrors w) (complete_mirrors w a) (fun _ _ _ _ h => h)

/-! ### Where the sink's operations come from -/

/-- Every sink operation of a dispatch has its cause, and a dispatch that operates nothing leaves
the binder alone: a stopped track, in particular, neither releases nor rebinds. -/
theorem dispatch_sink_caused (e : Envelope) (c : Controller) (s : σ) (tr : List Contact) :
    wp (dispatch w.recorded e) (fun _ c' p => Caused w s c e tr c'.binder p.2) c (s, tr) := by
  cases hlive : c.isLive e.session
  · rw [wp_dispatch_of_not_live w.recorded hlive]
    exact caused_self
  obtain ⟨id, ev⟩ := e
  simp only [dispatch, wp_bind, wp_isLive, hlive, Bool.not_true, Bool.false_eq_true, if_false,
    wp_modify]
  cases ev
  case disconnected =>
    simp only [wp_bind, releaseSession, wp_modify, wp_useBinder, wp_modifyView, wp_setState,
      wp_notifyWaiters, wp_setStatus, wp_publish, World.recorded_sink, World.recorded_reply,
      World.forM_noting]
    refine Caused.outcome [] (c.waiters.map fun r => .reply r .idle) (by simp) rfl (by simp)
      (by simp) (fun op hop => ?_) Binder.release_quiet
    obtain ⟨rfl, hb⟩ := Binder.mem_release_ops.1 hop
    exact ⟨hlive, rfl, hb⟩
  case trackStarted t p =>
    simp only [wp_ite]
    split
    · rename_i hguard
      simp only [Bool.and_eq_true, Bool.not_eq_eq_eq_not, Bool.not_true] at hguard
      simp only [wp_bind, wp_useBinder, World.recorded_sink, World.forM_noting, wp_publish]
      refine Caused.outcome [] [] (by simp) rfl (by simp) (by simp) (fun op hop => ?_)
        Binder.bind_quiet
      rw [Binder.mem_bind_ops hop]
      exact ⟨hlive, t, rfl, hguard.2, .inl ⟨p, rfl, hguard.1⟩⟩
    · exact caused_self
  case transportStateChanged st =>
    simp only [wp_bind, wp_modifyView, wp_setStatus, wp_ite]
    split
    · rename_i hready
      simp only [wp_reconcileTracks, World.recorded_tracks, World.recorded_sink,
        World.forM_noting, World.noting_run, wp_publish]
      refine Caused.outcome [.tracks id] [] (by simp) rfl (by simp) (by simp) (fun op hop => ?_)
        Binder.reconcile_quiet
      obtain ⟨t, ht, rfl⟩ := Binder.mem_reconcile_ops hop
      exact ⟨hlive, t, rfl, List.find?_some ht, .inr ⟨.inl (by simpa using hready), ht⟩⟩
    · exact caused_self
  case botReady data =>
    simp only [wp_bind, wp_log, wp_reconcileTracks, World.recorded_tracks, World.recorded_sink,
      World.forM_noting, World.noting_run, wp_publish]
    refine Caused.outcome [.tracks id] [] (by simp) rfl (by simp) (by simp) (fun op hop => ?_)
      Binder.reconcile_quiet
    obtain ⟨t, ht, rfl⟩ := Binder.mem_reconcile_ops hop
    exact ⟨hlive, t, rfl, List.find?_some ht, .inr ⟨.inr ⟨data, rfl⟩, ht⟩⟩
  case userTranscript t =>
    simp only [wp_ite]
    split <;> exact caused_self
  all_goals exact caused_self

/-! ### Nothing is attached without a live session

A dispatch with no live session drops its event, so what a controller without one does never
attaches; releasing or tombstoning the session ends with none live, and only a connect makes one
live again. -/

section Dormant

variable (tr₀ : List Contact)

theorem dispatch_dormant (e : Envelope) :
    Triple (fun c p => c.Dormant ∧ Unattached tr₀ p.2) (dispatch w.recorded e)
      (fun _ c p => c.Dormant ∧ Unattached tr₀ p.2) := by
  intro c p h
  rw [wp_dispatch_of_not_live w.recorded (h.1 e.session)]
  exact h

theorem processPending_dormant :
    Triple (fun c p => c.Dormant ∧ Unattached tr₀ p.2) (processPending w.recorded)
      (fun _ c p => c.Dormant ∧ Unattached tr₀ p.2) := by
  intro c p h
  simp only [processPending, wp_bind, wp_get, wp_modify]
  exact (Triple.forIn fun e _ => dispatch_dormant w tr₀ e).wp h fun _ _ _ h => h

theorem releaseSession_dormant (reason : SessionEnd) :
    Triple (fun _ p => Unattached tr₀ p.2) (releaseSession w.recorded reason)
      (fun _ c p => c.Dormant ∧ Unattached tr₀ p.2) := by
  rintro c ⟨s, tr⟩ h
  refine (releaseSession_recorded w reason c tr).wp ⟨rfl, rfl⟩ ?_
  rintro _ _ _ ⟨hs, -, -, -, -, -, htr⟩
  refine ⟨dormant_of_none hs, ?_⟩
  rw [htr, List.append_assoc]
  refine h.append fun ts hts => ?_
  simp [Binder.mem_release_ops] at hts

theorem afterLeave_dormant (after : AfterLeave) :
    Triple (fun c p => c.Dormant ∧ Unattached tr₀ p.2) (afterLeave w.recorded after)
      (fun _ c p => c.Dormant ∧ Unattached tr₀ p.2) := by
  intro c p h
  cases after with
  | disconnect =>
      simp only [afterLeave, wp_bind, wp_setStatus]
      exact (processPending_dormant w tr₀).wp h fun _ _ _ h => h
  | failedConnect =>
      simp only [afterLeave, wp_bind]
      exact (processPending_dormant w tr₀).wp h fun _ _ _ h => h

theorem teardown_dormant (reason : SessionEnd) (after : AfterLeave) :
    Triple (fun _ p => Unattached tr₀ p.2) (teardown w.recorded reason after)
      (fun _ c p => c.Dormant ∧ Unattached tr₀ p.2) := by
  rintro c ⟨s, tr⟩ h
  simp only [teardown, wp_bind, wp_get]
  cases c.session with
  | none =>
      simp only [wp_bind]
      exact (releaseSession_dormant w tr₀ reason).wp h fun _ _ _ h' =>
        (afterLeave_dormant w tr₀ after).wp h' fun _ _ _ h => h
  | some a =>
      simp only [wp_bind, wp_modify, wp_await, World.recorded_begin, World.noting_run]
      exact ⟨fun id => by simp [Controller.isLive], h.append (by simp)⟩

theorem failConnect_dormant (f : Failure) :
    Triple (fun _ p => Unattached tr₀ p.2) (failConnect w.recorded f)
      (fun _ c p => c.Dormant ∧ Unattached tr₀ p.2) := by
  intro c p h
  simp only [failConnect, wp_bind, wp_log, wp_setState, wp_setStatus]
  exact (teardown_dormant w tr₀ .connectFailed .failedConnect).wp h fun _ _ _ h => h

theorem disconnect_dormant :
    Triple (fun _ p => Unattached tr₀ p.2) (disconnect w.recorded)
      (fun _ c p => c.Dormant ∧ Unattached tr₀ p.2) := by
  rintro c ⟨s, tr⟩ h
  simp only [disconnect, wp_bind, wp_get]
  split
  · rename_i hidle
    simp only [Bool.and_eq_true, beq_iff_eq, Option.isNone_iff_eq_none] at hidle
    simp only [wp_bind, wp_notifyWaiters, wp_finish, World.recorded_reply, World.forM_noting]
    exact ⟨dormant_of_none hidle.2, h.append (by simp)⟩
  · simp only [wp_bind, wp_setState]
    exact (teardown_dormant w tr₀ .requested .disconnect).wp h fun _ _ _ h => h

theorem connect_unattached :
    Triple (fun _ p => Unattached tr₀ p.2) (connect w.recorded)
      (fun _ _ p => Unattached tr₀ p.2) := by
  rintro c ⟨s, tr⟩ h
  simp only [connect, wp_bind, wp_get]
  split
  · exact h
  simp only [wp_bind, wp_modify, wp_modifyView, wp_setState, wp_lift, World.recorded_create,
    World.noting_run]
  split
  · exact (failConnect_dormant w tr₀ _).wp (h.append (by simp)) fun _ _ _ h => h.2
  · simp only [wp_bind, wp_modify, wp_modifyView, wp_publish, wp_await, World.recorded_begin,
      World.noting_run]
    exact (h.append (by simp)).append (by simp)

theorem endedWhileConnecting_dormant :
    Triple (fun c p => c.Dormant ∧ Unattached tr₀ p.2) (endedWhileConnecting w.recorded)
      (fun _ c p => c.Dormant ∧ Unattached tr₀ p.2) := by
  intro c p h
  simp only [endedWhileConnecting, wp_bind]
  exact (processPending_dormant w tr₀).wp h fun _ _ _ h => h

theorem resume_dormant (wt : Waiting) (r : Except String Unit) :
    Triple (fun c p => c.Dormant ∧ Unattached tr₀ p.2) (resume w.recorded wt r)
      (fun _ c p => c.Dormant ∧ Unattached tr₀ p.2) := by
  rintro c ⟨s, tr⟩ ⟨hd, h⟩
  simp only [resume, wp_bind, wp_modify]
  have hd' : ({ c with waiting := none } : Controller).Dormant := hd
  -- with no live session, a connect's wait ends without going on
  rcases wt with id | id | ⟨id, reason, after⟩ <;> rcases r with e | ⟨⟩
  · simp only [wp_bind, wp_isLive, hd' id, Bool.false_eq_true, if_false]
    exact (endedWhileConnecting_dormant w tr₀).wp ⟨hd, h⟩ fun _ _ _ h => h
  · simp only [wp_bind, wp_isLive, hd' id, Bool.false_eq_true, if_false]
    exact (endedWhileConnecting_dormant w tr₀).wp ⟨hd, h⟩ fun _ _ _ h => h
  · simp only [wp_bind, wp_isLive, hd' id, Bool.false_eq_true, if_false]
    exact (endedWhileConnecting_dormant w tr₀).wp ⟨hd, h⟩ fun _ _ _ h => h
  · simp only [wp_bind]
    exact (processPending_dormant w tr₀).wp ⟨hd, h⟩ fun _ _ _ h => h
  all_goals
    simp only [wp_bind, wp_log]
    exact (releaseSession_dormant w tr₀ reason).wp h fun _ _ _ h' =>
      (afterLeave_dormant w tr₀ after).wp h' fun _ _ _ h => h

theorem turn_dormant :
    Triple (fun c p => c.Dormant ∧ Unattached tr₀ p.2) (turn w.recorded)
      (fun _ c p => c.Dormant ∧ Unattached tr₀ p.2) := by
  rintro c ⟨s, tr⟩ ⟨hd, h⟩
  simp only [turn, wp_bind, wp_get]
  split
  · exact ⟨hd, h⟩
  rename_i wt _
  simp only [wp_bind, wp_lift, wp_forIn_enqueue, World.recorded_poll, World.noting_run]
  have hpoll : Unattached tr₀ (tr ++ [Contact.poll (w.poll.run s).1.status]) := h.append (by simp)
  split
  · simp only [wp_bind]
    exact (resume_dormant w tr₀ wt _).wp ⟨hd, hpoll⟩ fun _ _ _ h => h
  simp only [wp_bind, wp_get]
  split
  · simp only [wp_bind, wp_modify]
    refine (dispatch_dormant w tr₀ _).wp ⟨hd, hpoll⟩ fun _ c' _ h' => ?_
    split
    · simp only [wp_bind, wp_isLive]
      split
      · exact h'
      · simp only [wp_bind, wp_modify]
        exact (endedWhileConnecting_dormant w tr₀).wp h' fun _ _ _ h => h
    · exact h'
  simp only [wp_bind, wp_lift, World.recorded_takeCommand, World.noting_run]
  have htake : Unattached tr₀ (tr ++ [Contact.poll (w.poll.run s).1.status] ++
      [Contact.take (w.takeCommand.run (w.poll.run s).2).1]) := hpoll.append (by simp)
  split
  · simp only [wp_bind, wp_state, wp_lift, World.recorded_reply, World.noting_run, wp_pure]
    exact ⟨hd, htake.append (by simp)⟩
  · simp only [wp_bind, wp_modify]
    split
    · simp only [wp_bind, wp_modify]
      exact (disconnect_dormant w tr₀).wp htake fun _ _ _ h => h
    · exact ⟨hd, htake⟩
  · exact ⟨hd, htake⟩

theorem complete_unattached (a : Activity) (st : ConnectionState) :
    Triple (fun _ p => Unattached tr₀ p.2) (complete w.recorded a st)
      (fun _ _ p => Unattached tr₀ p.2) := by
  rintro c ⟨s, tr⟩ h
  cases a with
  | serving r =>
      simp only [complete, wp_bind, wp_lift, World.recorded_reply, World.noting_run, wp_pure]
      exact h.append (by simp)
  | closing => exact h
  | listening => exact h

theorem proceed_unattached (a : Activity) (res : Option ConnectionState) :
    Triple (fun _ p => Unattached tr₀ p.2) (proceed w.recorded a res)
      (fun _ _ p => Unattached tr₀ p.2) := by
  cases res with
  | some st => exact complete_unattached w tr₀ a st
  | none => exact fun _ _ h => h

theorem serveMove_unattached (closed : σ × List Contact → Bool) (a : Activity) :
    Triple (fun c p => c.Dormant ∧ p.2 = tr₀) (serveMove w.recorded closed a)
      (fun _ _ p => Unattached tr₀ p.2) :=
  have hstart : ∀ (c : Controller) (p : σ × List Contact), c.Dormant ∧ p.2 = tr₀ →
      c.Dormant ∧ Unattached tr₀ p.2 :=
    fun _ _ h => ⟨h.1, h.2 ▸ unattached_self _⟩
  serveMove_triple w.recorded closed a
    (fun _ c p e _ h _ => (dispatch_dormant w tr₀ e).wp (hstart c p h) fun _ _ _ h => h.2)
    (fun _ c p h _ => by
      simp only [World.recorded_takeCommand, World.noting_run]
      exact (hstart c p h).2.append (by simp))
    (fun _ _ _ h => (connect_unattached w tr₀).wp h fun res _ _ h' =>
      proceed_unattached w tr₀ _ res _ _ h')
    (fun _ _ _ h => (disconnect_dormant w tr₀).wp h fun res _ _ h' =>
      proceed_unattached w tr₀ _ res _ _ h'.2)
    (fun _ _ h => h) (fun _ => (turn_dormant w tr₀).mono hstart fun _ _ _ h => h)
    (fun st c p h => complete_unattached w tr₀ a st c p h.2) (fun _ _ _ _ h => h.2)

end Dormant

end Ctl

/-! ### Along every run -/

namespace DirectRun

variable {σ : Type} {w : World σ}

theorem mirrors_perform {α : Type} {d : DirectRun σ} {act : Ctl (σ × List Contact) α}
    {next : α → Caller} (h : Ctl.wp act (fun _ c p => c.Mirrors p.2) d.controller (d.world, d.trace)) :
    (d.perform act next).controller.Mirrors (d.perform act next).trace := h

/-- Along a direct run the sink plays what the binder holds, after a history the controller can
make, and without a session nothing is bound. -/
theorem Reachable.mirrors {d : DirectRun σ} (hd : d.Reachable w) :
    d.controller.Mirrors d.trace ∧ (d.controller.session = none → d.controller.binder.bound = none) := by
  refine ⟨?_, fun hs => (hd.sound.consistent.cleared (hd.sound.consistent.agrees.none_iff.1 hs)).1⟩
  induction hd with
  | fresh settings s => exact .nil
  | step _ hs ih =>
      cases hs with
      | connect _ => exact mirrors_perform ((Ctl.connect_mirrors w).wp ih fun _ _ _ h => h)
      | disconnect _ => exact mirrors_perform ((Ctl.disconnect_mirrors w).wp ih fun _ _ _ h => h)
      | process _ => exact mirrors_perform ((Ctl.processPending_mirrors w).wp ih fun _ _ _ h => h)
      | turn _ => exact mirrors_perform ((Ctl.turn_mirrors w).wp ih fun _ _ _ h => h)
      | event e => exact ih
      | world s => exact ih

theorem Step.unattached {d d' : DirectRun σ} (hs : Step w d d') (hd : d.controller.Dormant) :
    Unattached d.trace d'.trace := by
  have h := unattached_self d.trace
  cases hs with
  | connect _ =>
      exact @perform_of_wp σ _ d _ _ (fun d' => Unattached d.trace d'.trace)
        ((Ctl.connect_unattached w d.trace).wp h fun _ _ _ h => h)
  | disconnect _ =>
      exact @perform_of_wp σ _ d _ _ (fun d' => Unattached d.trace d'.trace)
        ((Ctl.disconnect_dormant w d.trace).wp h fun _ _ _ h => h.2)
  | process _ =>
      exact @perform_of_wp σ _ d _ _ (fun d' => Unattached d.trace d'.trace)
        ((Ctl.processPending_dormant w d.trace).wp ⟨hd, h⟩ fun _ _ _ h => h.2)
  | turn _ =>
      exact @perform_of_wp σ _ d _ _ (fun d' => Unattached d.trace d'.trace)
        ((Ctl.turn_dormant w d.trace).wp ⟨hd, h⟩ fun _ _ _ h => h.2)
  | event e => exact h
  | world s => exact h

end DirectRun

namespace ControllerTask

variable {σ : Type} {w : World σ} {closed : σ → Bool}

/-- Along a run of the controller's task the sink plays what the binder holds, after a history
the controller can make, and without a session nothing is bound. -/
theorem Reachable.mirrors {t : ControllerTask σ} (ht : t.Reachable w closed) :
    t.controller.Mirrors t.trace ∧ (t.controller.session = none → t.controller.binder.bound = none) := by
  refine ⟨?_, fun hs => (ht.sound.consistent.cleared (ht.sound.consistent.agrees.none_iff.1 hs)).1⟩
  induction ht with
  | fresh settings s => exact .nil
  | step _ hs ih =>
      cases hs with
      | move _ =>
          refine @move_of_wp σ w closed _ (fun t' => t'.controller.Mirrors t'.trace) ?_
          refine (Ctl.serveMove_mirrors w _ _).wp ih fun m _ _ h => ?_
          cases m <;> exact h
      | event e _ => exact ih
      | world s => exact ih

theorem unattached_move {t : ControllerTask σ} (hd : t.controller.Dormant) :
    Unattached t.trace (t.move w closed).trace := by
  refine @move_of_wp σ w closed t (fun t' => Unattached t.trace t'.trace) ?_
  refine (Ctl.serveMove_unattached w t.trace _ t.activity).wp ⟨hd, rfl⟩ fun m _ _ h => ?_
  cases m <;> exact h

end ControllerTask

/-- The controller touches the sink only through its binder, and only for the live session: every
sink operation of a dispatch has its cause, ending a session releases the sink once if a track
was bound, the sink operations of every run form a `SinkHistory`, and a step that starts with no
live session attaches nothing. -/
theorem sink_plays_live_remote_audio (σ : Type) (w : World σ) (closed : σ → Bool) :
    (∀ e c s tr, Ctl.wp (Ctl.dispatch w.recorded e)
      (fun _ c' p => Caused w s c e tr c'.binder p.2) c (s, tr)) ∧
    (∀ reason b tr, Ctl.Triple (fun c p => c.binder = b ∧ p.2 = tr) (Ctl.releaseSession w.recorded reason)
      (fun _ c p => c.binder.bound = none ∧
        ∃ new, p.2 = tr ++ new ∧ sinkOps new = if b.bound.isSome then [.release] else [])) ∧
    (∀ d : DirectRun σ, d.Reachable w → d.controller.Mirrors d.trace ∧
      (d.controller.session = none → d.controller.binder.bound = none)) ∧
    (∀ t : ControllerTask σ, t.Reachable w closed → t.controller.Mirrors t.trace ∧
      (t.controller.session = none → t.controller.binder.bound = none)) ∧
    (∀ d d' : DirectRun σ, DirectRun.Step w d d' → d.controller.Dormant →
      Unattached d.trace d'.trace) ∧
    (∀ t : ControllerTask σ, t.controller.Dormant → Unattached t.trace (t.move w closed).trace) :=
  ⟨Ctl.dispatch_sink_caused w, Ctl.releaseSession_sink w, fun _ hd => hd.mirrors,
    fun _ ht => ht.mirrors, fun _ _ hs hd => hs.unattached hd,
    fun _ hd => ControllerTask.unattached_move hd⟩

/-- A fresh direct run with scripted transports that connects mirrors its binder on the sink. -/
theorem sink_mirrored_after_connect :
    ((DirectRun.fresh {} ({} : Scripted)).perform (Ctl.connect Scripted.world.recorded)
      Caller.ofOutcome).Reachable Scripted.world ∧
    ((DirectRun.fresh {} ({} : Scripted)).perform (Ctl.connect Scripted.world.recorded)
      Caller.ofOutcome).controller.Mirrors
      ((DirectRun.fresh {} ({} : Scripted)).perform (Ctl.connect Scripted.world.recorded)
      Caller.ofOutcome).trace :=
  have hd := @DirectRun.reachable_fresh_connect _ Scripted.world {} ({} : Scripted)
  ⟨hd, ((sink_plays_live_remote_audio Scripted Scripted.world fun _ => false).2.2.1 _ hd).1⟩

end VoiceSession
