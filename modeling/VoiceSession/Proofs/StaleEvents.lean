import VoiceSession.Proofs.Requests
import VoiceSession.Host.Direct
/-!
# Events of sessions that are not live

An event of a session that is not live is dropped, leaving controller and world as they were, so
between operations extra such events change nothing. During a wait a dropped event still takes a
turn, and the events behind it are dispatched a turn later.
-/

namespace VoiceSession

open Controller

namespace Ctl

variable {σ : Type} (w : World σ) {c : Controller} {s : σ}

theorem dispatch_run_of_not_live {e : Envelope} (h : c.isLive e.session = false) :
    ((dispatch w e).run c).run s = (((), c), s) :=
  (@wp_dispatch_of_not_live σ w (fun a c' s' => ((a, c'), s') = (((), c), s)) c s e h).mpr rfl

theorem dispatch_session (e : Envelope) (c₀ : Controller) :
    Triple (fun c _ => c = c₀) (dispatch w e)
      (fun _ c _ => c.session = c₀.session ∨ c.session = none) := by
  rintro c s rfl
  simp only [dispatch, wp_bind, wp_isLive]
  cases c.isLive e.session
  · exact .inl rfl
  obtain ⟨id, ev⟩ := e
  cases ev
  case disconnected =>
    simp only [Bool.not_true, Bool.false_eq_true, if_false, wp_bind, releaseSession, wp_modify,
      wp_useBinder, wp_modifyView, wp_setState, wp_notifyWaiters, wp_setStatus, wp_publish,
      or_true]
  -- every other event leaves the session slot alone
  all_goals
    simp only [Bool.not_true, Bool.false_eq_true, if_false, wp_bind, wp_modify, wp_setState, wp_setStatus,
      wp_modifyView, wp_publish, wp_log, wp_useBinder, wp_reconcileTracks, wp_ite, true_or,
      ite_self]

theorem dispatch_not_live (e : Envelope) {dead : SessionId → Prop} :
    Triple (fun c _ => ∀ id, dead id → c.isLive id = false) (dispatch w e)
      (fun _ c _ => ∀ id, dead id → c.isLive id = false) := fun c s hdead =>
  (dispatch_session w e c).wp rfl fun _ c' _ hs id hid => by
    rcases hs with hs | hs
    · simpa only [Controller.isLive, hs] using hdead id hid
    · simp only [Controller.isLive, hs]

end Ctl

/-! ### Queues with extra events -/

inductive Padded (dead : SessionId → Prop) : List Envelope → List Envelope → Prop
  | nil : Padded dead [] []
  | keep (e : Envelope) {q q' : List Envelope} : Padded dead q q' → Padded dead (e :: q) (e :: q')
  | extra (e : Envelope) {q q' : List Envelope} :
      dead e.session → Padded dead q q' → Padded dead q (e :: q')

namespace Ctl

variable {σ : Type} (w : World σ)

theorem wp_iff {α : Type} {x : Ctl σ α} {Q R : α → Controller → σ → Prop} {c : Controller} {s : σ}
    (h : wp x (fun a c s => Q a c s ↔ R a c s) c s) : wp x Q c s ↔ wp x R c s := h

/-- Dispatching a padded queue, while its extra events are of sessions that are not live, ends
as dispatching the queue itself. -/
theorem wp_forIn_dispatch_padded {dead : SessionId → Prop} {q q' : List Envelope}
    (hq : Padded dead q q') {Q : PUnit → Controller → σ → Prop} :
    ∀ {c : Controller} {s : σ}, (∀ id, dead id → c.isLive id = false) →
      (wp (forIn q' PUnit.unit fun e _ => do dispatch w e; pure (ForInStep.yield PUnit.unit)) Q c s ↔
        wp (forIn q PUnit.unit fun e _ => do dispatch w e; pure (ForInStep.yield PUnit.unit)) Q c s) := by
  induction hq with
  | nil => exact fun _ => Iff.rfl
  | keep e _ ih =>
      intro c s hdead
      simp only [List.forIn_cons, wp_bind]
      -- both dispatch the event, after which the extra events are still of dead sessions
      exact wp_iff (wp_mono (fun _ _ _ h => ih h) (dispatch_not_live w e c s hdead))
  | extra e he _ ih =>
      intro c s hdead
      simp only [List.forIn_cons, wp_bind, wp_dispatch_of_not_live w (hdead _ he), wp_pure]
      exact ih hdead

/-- Dispatching the queued events with extra events of sessions that are not live put in ends
exactly as without them, answering the longer count. -/
theorem processPending_padded {dead : SessionId → Prop} {q q' : List Envelope}
    (hq : Padded dead q q') {c : Controller} (hdead : ∀ id, dead id → c.isLive id = false)
    {Q : Nat → Controller → σ → Prop} {s : σ} :
    wp (processPending w) Q { c with inbox := q' } s ↔
      wp (processPending w) (fun _ => Q q'.length) { c with inbox := q } s := by
  simp only [processPending, wp_bind, wp_get, wp_modify]
  exact wp_forIn_dispatch_padded w hq hdead

/-- During a wait whose call is still pending, a turn that finds an event of a session that is
not live at the head of the queue drops it and goes on; it changes nothing else but queueing what
the poll reported. -/
theorem turn_drops_not_live {c : Controller} {s : σ} {wt : Waiting} {e : Envelope}
    {rest : List Envelope} {evs : List Event} {b : Bool} (hw : c.Waits)
    (hwt : c.waiting = some wt) (hin : c.inbox = e :: rest) (hdead : c.isLive e.session = false)
    (hpoll : (w.poll.run s).1 = ⟨evs, .pending b⟩) :
    ((turn w).run c).run s =
      ((.continues, { c with inbox := rest ++ evs.map fun ev => ⟨wt.session, ev⟩ }),
        (w.poll.run s).2) := by
  have hwp : wp (turn w) (fun t c' s' => ((t, c'), s') = ((.continues,
      { c with inbox := rest ++ evs.map fun ev => ⟨wt.session, ev⟩ }), (w.poll.run s).2)) c s := by
    simp only [turn, wp_bind, wp_get, hwt, wp_lift, wp_forIn_enqueue, hpoll, hin,
      List.cons_append, wp_modify]
    rw [wp_dispatch_of_not_live w (by simpa only [Controller.isLive] using hdead)]
    -- what is awaited belongs to a live session, or to none
    cases howner : wt.owner with
    | none => rfl
    | some id =>
        have hlive : Controller.isLive
            { c with inbox := rest ++ evs.map (fun ev => ⟨wt.session, ev⟩), waiting := some wt } id =
              true := hw.owned wt id hwt howner
        simp only [wp_bind, wp_isLive, hlive, if_true, wp_pure]
  exact hwp

end Ctl

/-- **Events of sessions that are not live are dropped.** Dispatching one leaves controller and world
exactly as they were; dispatching a queue with such events put in anywhere ends as without them;
and a turn of a pending wait that finds one at the head of the queue only drops it. -/
theorem not_live_events_dropped (σ : Type) (w : World σ) :
    (∀ (c : Controller) (s : σ) (e : Envelope), c.isLive e.session = false →
      ((Ctl.dispatch w e).run c).run s = (((), c), s)) ∧
    (∀ (dead : SessionId → Prop) (q q' : List Envelope) (c : Controller) (s : σ)
      (Q : Nat → Controller → σ → Prop), Padded dead q q' →
      (∀ id, dead id → c.isLive id = false) →
      (Ctl.wp (Ctl.processPending w) Q { c with inbox := q' } s ↔
        Ctl.wp (Ctl.processPending w) (fun _ => Q q'.length) { c with inbox := q } s)) ∧
    (∀ (c : Controller) (s : σ) (wt : Waiting) (e : Envelope) (rest : List Envelope)
      (evs : List Event) (b : Bool), c.Waits → c.waiting = some wt → c.inbox = e :: rest →
      c.isLive e.session = false → (w.poll.run s).1 = ⟨evs, .pending b⟩ →
      ((Ctl.turn w).run c).run s =
        ((.continues, { c with inbox := rest ++ evs.map fun ev => ⟨wt.session, ev⟩ }),
          (w.poll.run s).2)) :=
  ⟨fun _ _ _ h => Ctl.dispatch_run_of_not_live w h,
   fun _ _ _ _ _ _ hq hdead => Ctl.processPending_padded w hq hdead,
   fun _ _ _ _ _ _ _ hw hwt hin hdead hpoll => Ctl.turn_drops_not_live w hw hwt hin hdead hpoll⟩

/-- A fresh controller has no live session: an event of session 0 is dropped. -/
theorem not_live_event_dropped_fresh :
    (Controller.ofSettings {}).isLive ⟨0⟩ = false ∧
      ((Ctl.dispatch Scripted.world ⟨⟨0⟩, .connected⟩).run (.ofSettings {})).run ({} : Scripted) =
        (((), .ofSettings {}), {}) :=
  ⟨rfl, (not_live_events_dropped Scripted Scripted.world).1 _ _ ⟨⟨0⟩, .connected⟩ rfl⟩

namespace Bench

/-- Performs steps in order, reporting each. -/
def steps (b : Bench) : List DirectStep → List StepReport × Bench
  | [] => ([], b)
  | st :: sts =>
    let (r, b') := b.step st
    let (rs, b'') := b'.steps sts
    (r :: rs, b'')

end Bench

/-- Two direct runs whose queues differ by one event of an earlier session make different calls: with
it, the new session's end is dispatched a turn later, after its devices call finished, and the
session is asked to join first. -/
theorem stale_envelope_changes_calls :
    ((Bench.steps ⟨.ofSettings {}, {}⟩ [.connect, .disconnect,
        .setScript { deviceYields := 1, onDevice := [.disconnected] }, .emit ⟨0⟩ .connected,
        .connect]).1.getLast?.map (·.calls) =
      some ["s1:create", "s1:initialize_devices",
        "s1:connect http://localhost:7860/connect mic=true cam=false"]) ∧
    ((Bench.steps ⟨.ofSettings {}, {}⟩ [.connect, .disconnect,
        .setScript { deviceYields := 1, onDevice := [.disconnected] }, .connect]).1.getLast?.map
        (·.calls) =
      some ["s1:create", "s1:initialize_devices"]) := by
  decide +kernel

end VoiceSession
