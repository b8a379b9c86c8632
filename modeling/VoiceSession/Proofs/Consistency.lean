import VoiceSession.Proofs.Triple
/-!
# The controller stays consistent

`Controller.Consistent` says that the lifecycle state, the offered actions, the session slot,
the binder and the waiting requests agree. Every dispatch, turn, connect and disconnect keeps it,
in every world; `Agrees` tabulates which states go with which slot contents.
-/

namespace VoiceSession

/-- Which lifecycle states go with which contents of the session slot: no session exactly when
idle, a live session while connecting or connected, a tombstoned one while disconnecting or after
a failure. -/
def Agrees : Option Active → ConnectionState → Prop
  | none, st => st = .idle
  | some a, st =>
    if a.tombstoned then st = .disconnecting ∨ st = .error else st = .connecting ∨ st = .connected

theorem Agrees.none_iff {o : Option Active} {st : ConnectionState} (h : Agrees o st) :
    o = none ↔ st = .idle := by
  cases o with
  | none => exact ⟨fun _ => h, fun _ => rfl⟩
  | some a =>
      simp only [Agrees] at h
      split at h <;> rcases h with rfl | rfl <;> simp

theorem Agrees.live {a : Active} {st : ConnectionState} (h : Agrees (some a) st)
    (ha : a.tombstoned = false) : st = .connecting ∨ st = .connected := by
  simpa [Agrees, ha] using h

theorem Agrees.tombstoned {a : Active} {st : ConnectionState} (h : Agrees (some a) st)
    (ha : a.tombstoned = true) : st = .disconnecting ∨ st = .error := by
  simpa [Agrees, ha] using h

namespace Controller

theorem isLive_iff {c : Controller} {id : SessionId} :
    c.isLive id = true ↔ ∃ a, c.session = some a ∧ a.id = id ∧ a.tombstoned = false := by
  unfold isLive
  split <;> simp_all

structure Offers (c : Controller) : Prop where
  connectable : c.view.connectEnabled = c.view.connection.canConnect
  disconnectable : c.view.disconnectEnabled = c.view.connection.canDisconnect

/-- What a teardown relies on besides the lifecycle state: the view shows the session in the
slot, a session in the slot has not ended yet, and a teardown is only awaited for a tombstoned
session. -/
structure Tracked (c : Controller) : Prop where
  shown : c.view.session = c.session.map (·.id)
  unended : c.session.isSome → c.view.lastEnd = none
  leaving : ∀ i r a, c.waiting = some (.leaving i r a) → ∃ a', c.session = some a' ∧ a'.tombstoned = true

/-- The controller's facts agree: the offered actions follow the state, the view shows the
session, the state goes with the session slot, and an idle controller holds nothing over from
its last session. -/
structure Consistent (c : Controller) : Prop extends Offers c, Tracked c where
  agrees : Agrees c.session c.view.connection
  cleared : c.view.connection = .idle →
    c.binder.bound = none ∧ c.view.transportState = none ∧ c.view.searchResult = none ∧ c.waiters = []

def NotLeaving (c : Controller) : Prop := ∀ i r a, c.waiting ≠ some (.leaving i r a)

theorem Tracked.notLeaving_of_none {c : Controller} (h : c.Tracked) (hs : c.session = none) :
    c.NotLeaving := by
  intro i r a hw
  obtain ⟨_, ha, -⟩ := h.leaving i r a hw
  simp [hs] at ha

theorem Tracked.notLeaving_of_live {c : Controller} {id : SessionId} (h : c.Tracked)
    (hlive : c.isLive id = true) : c.NotLeaving := by
  intro i r a hw
  obtain ⟨a', ha', htomb'⟩ := h.leaving i r a hw
  obtain ⟨a, ha, -, htomb⟩ := isLive_iff.1 hlive
  rw [ha] at ha'
  cases ha'
  simp [htomb] at htomb'

theorem Consistent.not_idle_of_live {c : Controller} {id : SessionId} (h : c.Consistent)
    (hlive : c.isLive id = true) : c.view.connection ≠ .idle := by
  obtain ⟨a, ha, -, -⟩ := isLive_iff.1 hlive
  intro hidle
  simp [h.agrees.none_iff.2 hidle] at ha

theorem consistent_ofSettings (s : ControllerSettings) : (ofSettings s).Consistent where
  connectable := rfl
  disconnectable := rfl
  shown := rfl
  unended := by simp [ofSettings]
  leaving := by simp [ofSettings]
  agrees := rfl
  cleared := fun _ => ⟨rfl, rfl, rfl, rfl⟩

theorem Consistent.enqueue {c : Controller} (h : c.Consistent) (e : Envelope) :
    (c.enqueue e).Consistent := { h with }

theorem Consistent.clearWaiters {c : Controller} (h : c.Consistent) :
    { c with waiters := [] }.Consistent :=
  { h with cleared := fun hidle =>
      ⟨(h.cleared hidle).1, (h.cleared hidle).2.1, (h.cleared hidle).2.2.1, rfl⟩ }

theorem Consistent.busy_of_owner_none {c : Controller} {wt : Waiting} (h : c.Consistent)
    (hwt : c.waiting = some wt) (hown : wt.owner = none) : c.view.connection ≠ .idle := by
  cases wt with
  | devices id => simp [Waiting.owner] at hown
  | joining id => simp [Waiting.owner] at hown
  | leaving id reason after =>
      obtain ⟨a, ha, htomb⟩ := h.leaving id reason after hwt
      have hending := (ha ▸ h.agrees).tombstoned htomb
      rcases hending with hst | hst <;> simp [hst]

end Controller

open Controller

namespace Ctl

variable {σ : Type} (w : World σ)

/-- Releasing a session leaves a consistent idle controller behind, whatever state it was in,
as long as no teardown is awaited. -/
theorem releaseSession_consistent (reason : SessionEnd) :
    Triple (fun c _ => c.NotLeaving) (releaseSession w reason) (fun _ c _ => c.Consistent) := by
  intro c s hc
  simp only [releaseSession, wp_bind, wp_modify, wp_useBinder, wp_modifyView, wp_setState,
    wp_notifyWaiters]
  refine { connectable := rfl, disconnectable := rfl, shown := rfl, unended := by simp,
           leaving := fun i r a hw => absurd hw (hc i r a), agrees := rfl, cleared := ?_ }
  intro _
  refine ⟨?_, rfl, rfl, rfl⟩
  simp only [Binder.release]
  split <;> simp_all

/-- An event of a live session moves the controller among consistent states; any other event
changes nothing. -/
theorem dispatch_consistent (e : Envelope) :
    Triple (fun c _ => c.Consistent) (dispatch w e) (fun _ c _ => c.Consistent) := by
  intro c s hc
  simp only [dispatch, wp_bind, wp_isLive]
  cases hlive : c.isLive e.session
  · simpa using hc
  obtain ⟨a, ha, -, htomb⟩ := isLive_iff.1 hlive
  have hbusy : c.view.connection ≠ .idle := hc.not_idle_of_live hlive
  simp only [Bool.not_true, Bool.false_eq_true, if_false, wp_bind, wp_modify]
  obtain ⟨id, ev⟩ := e
  cases ev with
  | connected =>
      simp only [wp_bind, wp_setState, wp_setStatus,
        wp_publish]
      exact { hc with connectable := rfl, disconnectable := rfl,
                      agrees := by rw [ha]; simp [Agrees, htomb],
                      cleared := fun h => absurd h (by simp) }
  | disconnected =>
      simp only [wp_bind]
      exact (releaseSession_consistent w .remote).wp (hc.notLeaving_of_live hlive)
        fun _ _ _ h => { h with }
  | transportStateChanged st =>
      simp only [wp_bind, wp_modifyView, wp_setStatus]
      split
      · simp only [wp_bind, wp_reconcileTracks, wp_publish]
        exact { hc with cleared := fun h => absurd h hbusy }
      · simp only [wp_publish]
        exact { hc with cleared := fun h => absurd h hbusy }
  | trackStarted t p =>
      dsimp only
      split
      · simp only [wp_bind, wp_useBinder, wp_publish]
        exact { hc with cleared := fun h => absurd h hbusy }
      · simp only [wp_publish]
        exact { hc with }
  | trackStopped t p => simpa using { hc with }
  | botConnected p => simpa using { hc with }
  | botDisconnected p => simpa using { hc with }
  | botReady data =>
      simp only [wp_bind, wp_log, wp_reconcileTracks, wp_publish]
      exact { hc with cleared := fun h => absurd h hbusy }
  | userTranscript t =>
      dsimp only
      split
      · simpa using { hc with }
      · simp only [wp_publish]
        exact { hc with }
  | botTranscript t => simpa using { hc with }
  | searchResponse r =>
      simp only [wp_bind, wp_modifyView, wp_publish]
      exact { hc with cleared := fun h => absurd h hbusy }
  | messageError data => simpa using { hc with }
  | error data => simpa using { hc with }

theorem processPending_consistent :
    Triple (fun c _ => c.Consistent) (processPending w) (fun _ c _ => c.Consistent) := by
  intro c s hc
  simp only [processPending, wp_bind, wp_get, wp_modify]
  exact (Triple.forIn fun e _ => dispatch_consistent w e).wp { hc with } fun _ _ _ h => h

theorem afterLeave_consistent (after : AfterLeave) :
    Triple (fun c _ => c.Consistent) (afterLeave w after) (fun _ c _ => c.Consistent) := by
  intro c s hc
  cases after with
  | disconnect =>
      simp only [afterLeave, wp_bind, wp_setStatus]
      exact (processPending_consistent w).wp { hc with } fun _ _ _ h => by
        simp only [wp_bind, wp_publish, wp_finish]
        exact { h with leaving := by simp }
  | failedConnect =>
      simp only [afterLeave, wp_bind]
      exact (processPending_consistent w).wp hc fun _ _ _ h => by
        simp only [wp_finish]
        exact { h with leaving := by simp }

/-- A teardown started while disconnecting or after a failure, with the offers and the session
tracked, ends consistent: either it awaits the transport's disconnect with the session
tombstoned, or, with no session, it has released everything already. -/
theorem teardown_consistent (reason : SessionEnd) (after : AfterLeave) :
    Triple (fun c _ => c.Offers ∧ c.Tracked ∧
        (c.view.connection = .disconnecting ∨ c.view.connection = .error))
      (teardown w reason after) (fun _ c _ => c.Consistent) := by
  rintro c s ⟨hoffers, htracked, hending⟩
  have hbusy : c.view.connection ≠ .idle := by rcases hending with h | h <;> simp [h]
  simp only [teardown, wp_bind, wp_get]
  cases hs : c.session with
  | none =>
      simp only [wp_bind]
      exact (releaseSession_consistent w reason).wp (htracked.notLeaving_of_none hs)
        fun _ _ _ h => (afterLeave_consistent w after).wp h fun _ _ _ h => h
  | some a =>
      simp only [wp_bind, wp_modify, wp_await]
      exact { hoffers with
        shown := by simp [htracked.shown, hs]
        unended := fun _ => htracked.unended (by simp [hs])
        leaving := fun _ _ _ _ => ⟨_, rfl, rfl⟩
        agrees := by simpa [Agrees] using hending
        cleared := fun h => absurd h hbusy }

/-- A failed connect ends consistent, from any state whose session is tracked: it moves to the
error state itself before tearing down. -/
theorem failConnect_consistent (f : Failure) :
    Triple (fun c _ => c.Tracked) (failConnect w f) (fun _ c _ => c.Consistent) := by
  intro c s hc
  simp only [failConnect, wp_bind, wp_log, wp_setState, wp_setStatus]
  exact (teardown_consistent w .connectFailed .failedConnect).wp
    ⟨⟨rfl, rfl⟩, { hc with }, .inr rfl⟩ fun _ _ _ h => h

/-- A disconnect ends consistent from any consistent controller, and also from one that is
consistent but for requests just added to those waiting: it answers them or tears down. -/
theorem disconnect_consistent :
    Triple (fun c _ => { c with waiters := [] }.Consistent) (disconnect w)
      (fun _ c _ => c.Consistent) := by
  intro c s hc
  simp only [disconnect, wp_bind, wp_get]
  split
  · simp only [wp_bind, wp_notifyWaiters, wp_finish]
    exact { hc with leaving := by simp }
  · simp only [wp_bind, wp_setState]
    exact (teardown_consistent w .requested .disconnect).wp
      ⟨⟨rfl, rfl⟩, { hc.toTracked with }, .inl rfl⟩ fun _ _ _ h => h

/-- A connect ends consistent: refused when not idle, failed and cleaned up, or awaiting the
devices of a live session it has just created. -/
theorem connect_consistent :
    Triple (fun c _ => c.Consistent) (connect w) (fun _ c _ => c.Consistent) := by
  intro c s hc
  simp only [connect, wp_bind, wp_get]
  split
  · simpa using hc
  simp only [wp_bind, wp_modify, wp_modifyView, wp_setState, wp_lift]
  split
  · exact (failConnect_consistent w _).wp { hc.toTracked with unended := fun _ => rfl }
      fun _ _ _ h => h
  · simp only [wp_bind, wp_modify, wp_modifyView, wp_publish, wp_await]
    exact { connectable := rfl, disconnectable := rfl, shown := rfl, unended := fun _ => rfl,
            leaving := by simp, agrees := by simp [Agrees], cleared := fun h => absurd h (by simp) }

theorem endedWhileConnecting_consistent :
    Triple (fun c _ => c.Consistent) (endedWhileConnecting w) (fun _ c _ => c.Consistent) := by
  intro c s hc
  simp only [endedWhileConnecting, wp_bind]
  exact (processPending_consistent w).wp hc fun _ _ _ h => by
    simp only [wp_finish]
    exact { h with leaving := by simp }

theorem resume_consistent (wt : Waiting) (r : Except String Unit) :
    Triple (fun c _ => c.Consistent) (resume w wt r) (fun _ c _ => c.Consistent) := by
  intro c s hc
  -- the call is over, so nothing is awaited from here on
  have hc' : { c with waiting := none }.Consistent := { hc with leaving := by simp }
  simp only [resume, wp_bind, wp_modify]
  rcases wt with id | id | ⟨id, reason, after⟩ <;> rcases r with e | ⟨⟩
  · simp only [wp_bind, wp_isLive]
    split
    · exact (failConnect_consistent w _).wp hc'.toTracked fun _ _ _ h => h
    · exact (endedWhileConnecting_consistent w).wp hc' fun _ _ _ h => h
  · simp only [wp_bind, wp_isLive]
    split
    · simp only [wp_bind, wp_get, wp_await]
      exact { hc' with leaving := by simp }
    · exact (endedWhileConnecting_consistent w).wp hc' fun _ _ _ h => h
  · simp only [wp_bind, wp_isLive]
    split
    · exact (failConnect_consistent w _).wp hc'.toTracked fun _ _ _ h => h
    · exact (endedWhileConnecting_consistent w).wp hc' fun _ _ _ h => h
  · simp only [wp_bind]
    exact (processPending_consistent w).wp hc' fun _ _ _ h => by
      simp only [wp_finish]
      exact { h with leaving := by simp }
  · simp only [wp_bind, wp_log]
    exact (releaseSession_consistent w reason).wp (by simp [NotLeaving])
      fun _ _ _ h => (afterLeave_consistent w after).wp h fun _ _ _ h => h
  · simp only [wp_bind]
    exact (releaseSession_consistent w reason).wp (by simp [NotLeaving])
      fun _ _ _ h => (afterLeave_consistent w after).wp h fun _ _ _ h => h

/-- A turn of waiting keeps the controller consistent: the poll only queues events, a dispatch
keeps it, a connect request is answered without any change, and a disconnect request either waits
for the teardown in progress or, during a connect, starts one. -/
theorem turn_consistent :
    Triple (fun c _ => c.Consistent) (turn w) (fun _ c _ => c.Consistent) := by
  intro c s hc
  simp only [turn, wp_bind, wp_get]
  split
  · simpa using hc
  rename_i wt hwt
  simp only [wp_bind, wp_lift, wp_forIn_enqueue]
  split
  · simp only [wp_bind]
    exact (resume_consistent w wt _).wp { hc with } fun _ _ _ h => h
  simp only [wp_bind, wp_get]
  split
  · -- an event is queued: dispatch it, and stop a connect whose session it ended
    simp only [wp_bind, wp_modify]
    refine (dispatch_consistent w _).wp { hc with } fun _ c' s' h' => ?_
    split
    · simp only [wp_bind, wp_isLive]
      split
      · simpa using h'
      · simp only [wp_bind, wp_modify]
        exact (endedWhileConnecting_consistent w).wp { h' with leaving := by simp }
          fun _ _ _ h => h
    · simpa using h'
  -- nothing is queued: take a request
  simp only [wp_bind, wp_lift]
  split
  · simpa using { hc with }
  · simp only [wp_bind, wp_modify]
    split
    · simp only [wp_bind, wp_modify]
      exact (disconnect_consistent w).wp { hc.clearWaiters with leaving := by simp }
        fun _ _ _ h => h
    · rename_i hown
      have hbusy := hc.busy_of_owner_none hwt (by simpa using hown)
      simpa using { hc with cleared := fun h => absurd h hbusy }
  · simpa using { hc with }

end Ctl

end VoiceSession
