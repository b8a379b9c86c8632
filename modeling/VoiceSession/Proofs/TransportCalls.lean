import Mathlib.Logic.Relation
import VoiceSession.Proofs.Calls
import VoiceSession.Proofs.Serving
import VoiceSession.Proofs.DirectRuns
/-!
# The calls made on transports, along every run

`Calls` holds at every point of every run of either host and `Since` of every step, so every
transport's calls follow its lifecycle, and once a session is retired its transport is never used
again.
-/

namespace VoiceSession

open Controller

/-! ### What the invariant says of each transport -/

namespace Lifecycle

variable {S : Option Active} {W : Option Waiting} {n : Nat} {E : Option SessionEnd}
  {tr : List Contact}

theorem follows (h : Lifecycle S W n E tr) (id : SessionId) :
    ∃ s, stage id tr = some s ∧ s.Follows (callsOf (uses id tr)) := by
  obtain ⟨s, hs⟩ := Option.ne_none_iff_exists'.1 (h.lawful id)
  have hfollows := Stage.Follows.run (show Stage.unused.Follows [] from rfl) hs
  exact ⟨s, hs, by simpa using hfollows⟩

/-- The transport of the session present was asked to disconnect exactly when the session is
tombstoned. -/
theorem leave_mem_iff (h : Lifecycle S W n E tr) {a : Active} (hS : S = some a) :
    Use.call .leave ∈ uses a.id tr ↔ a.tombstoned = true := by
  obtain ⟨s, hs, -, hleft⟩ := h.present a hS
  exact (Stage.leave_mem_iff (by decide) hs).trans hleft

end Lifecycle

/-! ### Retired sessions -/

namespace Controller

def Retired (c : Controller) (id : SessionId) : Prop := id.index < c.started ∧ c.isLive id = false

end Controller

theorem Since.retired {c₀ c : Controller} {tr₀ tr : List Contact} {id : SessionId}
    (h : Since c₀ tr₀ c.session c.started tr) (hr : c₀.Retired id) :
    c.Retired id ∧ uses id tr = uses id tr₀ := by
  obtain ⟨hlt, hlive⟩ := hr
  refine ⟨⟨Nat.lt_of_lt_of_le hlt h.started_le, ?_⟩, ?_⟩
  · -- a session live now was live before, or started since
    cases hl : c.isLive id with
    | false => rfl
    | true =>
        obtain ⟨a, ha, rfl, ht⟩ := isLive_iff.1 hl
        rcases h.live a ha ht with h' | h'
        · simp [hlive] at h'
        · omega
  · by_contra hne
    rcases h.used id hne with h' | h'
    · simp [hlive] at h'
    · omega

section Runs

variable {α : Type} {Step : α → α → Prop} {Reach : α → Prop}

/-- Along a run each of whose steps keeps the frame, a retired session stays retired and its
transport is never used again. -/
theorem retired_along (ctl : α → Controller) (trace : α → List Contact)
    (hreach : ∀ x y, Reach x → Step x y → Reach y)
    (hframe : ∀ x y, Reach x → Step x y →
      Since (ctl x) (trace x) (ctl y).session (ctl y).started (trace y))
    {x y : α} (hx : Reach x) (hxy : Relation.ReflTransGen Step x y) {id : SessionId}
    (hr : (ctl x).Retired id) : (ctl y).Retired id ∧ uses id (trace y) = uses id (trace x) := by
  suffices Reach y ∧ (ctl y).Retired id ∧ uses id (trace y) = uses id (trace x) from this.2
  induction hxy with
  | refl => exact ⟨hx, hr, rfl⟩
  | tail _ hs ih =>
      obtain ⟨hz, hrz, huz⟩ := ih
      obtain ⟨hry, huy⟩ := (hframe _ _ hz hs).retired hrz
      exact ⟨hreach _ _ hz hs, hry, huy.trans huz⟩

end Runs

/-! ### A move of the controller's task -/

theorem Tends.append_silent {σ : Type} {c₀ c : Controller} {tr₀ tr new : List Contact} {s : σ}
    (h : Tends c₀ tr₀ c (s, tr)) (hnew : ∀ x ∈ new, x.Silent) (s' : σ) :
    Tends c₀ tr₀ c (s', tr ++ new) :=
  ⟨Lifecycle.append_silent h.1 hnew, h.2.silent hnew⟩

namespace Ctl

variable {σ : Type} (w : World σ) (c₀ : Controller) (tr₀ : List Contact)

theorem complete_tends (a : Activity) (st : ConnectionState) :
    Triple (Tends c₀ tr₀) (complete w.recorded a st) (fun _ => Tends c₀ tr₀) := by
  rintro c ⟨s, tr⟩ h
  cases a with
  | serving r =>
      simp only [wp_complete_serving, World.recorded_reply, World.noting_run]
      exact h.append_silent (by simp) _
  | closing => exact h
  | listening => exact h

theorem proceed_tends (a : Activity) (res : Option ConnectionState) :
    Triple (Tends c₀ tr₀) (proceed w.recorded a res) (fun _ => Tends c₀ tr₀) := by
  cases res with
  | some st => exact complete_tends w c₀ tr₀ a st
  | none => exact fun _ _ h => h

/-- A move of the controller's task keeps the calls in their lifecycle and the frame: it
dispatches an event, starts the operation a request asks for, disconnects once every handle is
gone, or takes a turn of waiting; taking and answering requests contacts no transport. -/
theorem serveMove_tends (closed : σ → Bool) (a : Activity) :
    Triple (fun c p => Tends c₀ tr₀ c p ∧ c.Consistent ∧ c.Waits ∧
        (a = .listening → c.waiting = none))
      (serveMove w.recorded (fun p => closed p.1) a) (fun _ => Tends c₀ tr₀) := by
  rintro c ⟨s, tr⟩ ⟨h, hc, hw, hl⟩
  rcases eq_or_ne a .listening with rfl | ha
  · have hnone := hl rfl
    -- between operations no teardown is awaited, so a session present is live
    have hlive : ∀ a, c.session = some a → a.tombstoned = false :=
      Lifecycle.untombstoned h.1 fun _ _ _ => by simp [hnone]
    simp only [serveMove, wp_bind, wp_get]
    split
    · -- a queued event is dispatched
      simp only [wp_bind, wp_set]
      exact (dispatch_tends w c₀ tr₀ _ _).wp ⟨rfl, h⟩ fun _ _ _ h' => h'.1
    simp only [wp_bind, wp_lift, World.recorded_takeCommand, World.noting_run]
    have htaken : ∀ cmd, Tends c₀ tr₀ c ((w.takeCommand.run s).2, tr ++ [.take cmd]) :=
      fun _ => h.append_silent (by simp) _
    split
    · exact (connect_tends w c₀ tr₀).wp ⟨htaken _, hc.agrees.none_iff.2⟩
        fun res _ _ h' => proceed_tends w c₀ tr₀ _ res _ _ h'
    · exact (disconnect_tends w c₀ tr₀).wp ⟨htaken _, hc.agrees.none_iff.1, hlive⟩
        fun res _ _ h' => proceed_tends w c₀ tr₀ _ res _ _ h'
    · simp only [wp_bind, wp_getWorld]
      split
      · split
        · exact (disconnect_tends w c₀ tr₀).wp ⟨htaken _, hc.agrees.none_iff.1, hlive⟩
            fun res _ _ h' => proceed_tends w c₀ tr₀ _ res _ _ h'
        · exact htaken _
      · exact htaken _
  · -- during an operation the move is a turn of waiting
    rw [ControllerTask.wp_serveMove_of_busy ha]
    refine (turn_tends w c₀ tr₀).wp ⟨h, hw⟩ fun t _ _ h' => ?_
    cases t with
    | finished st => exact complete_tends w c₀ tr₀ a st _ _ h'
    | continues => exact h'
    | blocked resumes => exact h'

end Ctl

/-! ### Runs of the controller's task -/

namespace ControllerTask

variable {σ : Type} {w : World σ} {closed : σ → Bool}

/-- A step of a sound task keeps the calls in their lifecycle, and uses only the transports of
sessions live before it or started by it. -/
theorem Sound.tends {t t' : ControllerTask σ} (h : t.Sound) (hc : Calls t.controller t.trace)
    (hs : Step w closed t t') : Tends t.controller t.trace t'.controller (t'.world, t'.trace) := by
  have h₀ : Tends t.controller t.trace t.controller (t.world, t.trace) := ⟨hc, .refl _ _⟩
  cases hs with
  | move _ =>
      refine @move_of_wp σ w closed t
        (fun t' => Tends t.controller t.trace t'.controller (t'.world, t'.trace)) ?_
      refine (Ctl.serveMove_tends w _ _ closed t.activity).wp
        ⟨h₀, h.consistent, h.waits, fun hl => (h.between hl).1⟩ fun m _ _ h' => ?_
      cases m <;> exact h'
  | event e _ => exact h₀
  | world s => exact h₀

theorem Reachable.calls {t : ControllerTask σ} (ht : t.Reachable w closed) :
    Calls t.controller t.trace := by
  induction ht with
  | fresh settings s => exact Lifecycle.init _ _ _ rfl rfl rfl
  | step ht _ ih => exact (ht.sound.tends ih ‹_›).1

theorem Reachable.since {t t' : ControllerTask σ} (ht : t.Reachable w closed)
    (hs : Step w closed t t') :
    Since t.controller t.trace t'.controller.session t'.controller.started t'.trace :=
  (ht.sound.tends ht.calls hs).2

theorem Reachable.retired {t t' : ControllerTask σ} (ht : t.Reachable w closed)
    (hrun : Relation.ReflTransGen (Step w closed) t t') {id : SessionId}
    (hr : t.controller.Retired id) : t'.controller.Retired id ∧ uses id t'.trace = uses id t.trace :=
  retired_along controller trace (fun _ _ hx hs => hx.step hs) (fun _ _ hx hs => hx.since hs) ht
    hrun hr

end ControllerTask

/-! ### Direct runs -/

namespace DirectRun

variable {σ : Type} {w : World σ}

theorem tends_perform {α : Type} {d : DirectRun σ} {act : Ctl (σ × List Contact) α}
    {next : α → Caller} {c₀ : Controller} {tr₀ : List Contact}
    (h : Ctl.wp act (fun _ c p => Tends c₀ tr₀ c p) d.controller (d.world, d.trace)) :
    Tends c₀ tr₀ (d.perform act next).controller
      ((d.perform act next).world, (d.perform act next).trace) := h

/-- A step of a sound direct run keeps the calls in their lifecycle, and uses only the transports
of sessions live before it or started by it. -/
theorem Sound.tends {d d' : DirectRun σ} (h : d.Sound) (hc : Calls d.controller d.trace)
    (hs : Step w d d') : Tends d.controller d.trace d'.controller (d'.world, d'.trace) := by
  have h₀ : Tends d.controller d.trace d.controller (d.world, d.trace) := ⟨hc, .refl _ _⟩
  cases hs with
  | connect _ =>
      exact tends_perform ((Ctl.connect_tends w _ _).wp ⟨h₀, h.consistent.agrees.none_iff.2⟩
        fun _ _ _ h' => h')
  | disconnect hfree =>
      -- a free caller awaits no teardown, so a session present is live
      have hnone := (h.free hfree).1
      have hlive := Lifecycle.untombstoned hc fun _ _ _ => by simp [hnone]
      exact tends_perform ((Ctl.disconnect_tends w _ _).wp
        ⟨h₀, h.consistent.agrees.none_iff.1, hlive⟩ fun _ _ _ h' => h')
  | process _ =>
      exact tends_perform ((Ctl.processPending_tends w _ _ _).wp ⟨rfl, h₀⟩ fun _ _ _ h' => h'.1)
  | turn _ => exact tends_perform ((Ctl.turn_tends w _ _).wp ⟨h₀, h.waits⟩ fun _ _ _ h' => h')
  | event e => exact h₀
  | world s => exact h₀

theorem Reachable.calls {d : DirectRun σ} (hd : d.Reachable w) : Calls d.controller d.trace := by
  induction hd with
  | fresh settings s => exact Lifecycle.init _ _ _ rfl rfl rfl
  | step hd hs ih => exact (hd.sound.tends ih hs).1

theorem Reachable.since {d d' : DirectRun σ} (hd : d.Reachable w) (hs : Step w d d') :
    Since d.controller d.trace d'.controller.session d'.controller.started d'.trace :=
  (hd.sound.tends hd.calls hs).2

theorem Reachable.retired {d d' : DirectRun σ} (hd : d.Reachable w)
    (hrun : Relation.ReflTransGen (Step w) d d') {id : SessionId}
    (hr : d.controller.Retired id) : d'.controller.Retired id ∧ uses id d'.trace = uses id d.trace :=
  retired_along controller trace (fun _ _ hx hs => hx.step hs) (fun _ _ hx hs => hx.since hs) hd
    hrun hr

end DirectRun

/-! ### Every transport, in every run -/

/-- **Every transport is called as its lifecycle allows.** At every point of a recorded run of either
host the calls agree with the controller (`Calls`); every step uses only the transports of
sessions live when it starts or started by it; and once a session is retired its transport is
never used again. -/
theorem transport_calls_follow_lifecycle (σ : Type) (w : World σ) (closed : σ → Bool) :
    (∀ d : DirectRun σ, d.Reachable w → Calls d.controller d.trace) ∧
    (∀ t : ControllerTask σ, t.Reachable w closed → Calls t.controller t.trace) ∧
    (∀ c tr, Calls c tr → JoinsAfterDevices tr ∧ ∀ id,
      (∃ s, stage id tr = some s ∧ s.Follows (callsOf (uses id tr))) ∧
      (Contact.create id (.ok ()) ∈ tr ↔ uses id tr ≠ []) ∧
      (∀ a, c.session = some a → a.id = id →
        (Use.call .leave ∈ uses id tr ↔ a.tombstoned = true)) ∧
      (c.session = none → id.index + 1 = c.started → Contact.create id (.ok ()) ∈ tr →
        ∀ reason, c.view.lastEnd = some reason →
          (Use.call .leave ∈ uses id tr ↔ reason ≠ .remote))) ∧
    (∀ c tr e, Calls c tr → Ctl.Triple (fun c' p => c' = c ∧ p.2 = tr) (Ctl.dispatch w.recorded e)
      (fun _ c' p => Calls c' p.2 ∧
        ∀ id, uses id p.2 ≠ uses id tr → c.isLive id = true ∨ c.started ≤ id.index)) ∧
    (∀ d d' : DirectRun σ, d.Reachable w → DirectRun.Step w d d' → ∀ id,
      uses id d'.trace ≠ uses id d.trace →
        d.controller.isLive id = true ∨ d.controller.started ≤ id.index) ∧
    (∀ t t' : ControllerTask σ, t.Reachable w closed → ControllerTask.Step w closed t t' → ∀ id,
      uses id t'.trace ≠ uses id t.trace →
        t.controller.isLive id = true ∨ t.controller.started ≤ id.index) ∧
    (∀ (d d' : DirectRun σ) id, d.Reachable w → Relation.ReflTransGen (DirectRun.Step w) d d' →
      d.controller.Retired id → uses id d'.trace = uses id d.trace) ∧
    (∀ (t t' : ControllerTask σ) id, t.Reachable w closed →
      Relation.ReflTransGen (ControllerTask.Step w closed) t t' →
      t.controller.Retired id → uses id t'.trace = uses id t.trace) ∧
    (∀ d : DirectRun σ, d.caller = .free →
      ∀ op ∈ [Ctl.connect w.recorded, Ctl.disconnect w.recorded],
        Ctl.wp (Ctl.await? w.recorded op) (fun _ c p => ∃ d', Relation.ReflTransGen
          (DirectRun.Step w) d d' ∧ d'.controller = c ∧ (d'.world, d'.trace) = p)
          d.controller (d.world, d.trace)) := by
  refine ⟨fun _ hd => hd.calls, fun _ ht => ht.calls, ?_, ?_, ?_, ?_, ?_, ?_, ?_⟩
  · intro c tr hc
    refine ⟨hc.joins, fun id => ⟨hc.follows id, hc.created id, ?_, ?_⟩⟩
    · rintro a ha rfl
      exact hc.leave_mem_iff ha
    · intro hs hn hcreated reason hend
      have hid : id = ⟨c.started - 1⟩ := by
        rw [← hn]
        rfl
      subst hid
      exact hc.ended hs reason hend hcreated
  · intro c tr e hc
    refine (Ctl.dispatch_tends w c tr e c).mono ?_ fun _ _ _ h => ⟨h.1.1, h.1.2.used⟩
    rintro c' ⟨s, tr'⟩ ⟨rfl, htr⟩
    simp only at htr
    subst htr
    exact ⟨rfl, hc, .refl _ _⟩
  · exact fun _ _ hd hs => (hd.since hs).used
  · exact fun _ _ ht hs => (ht.since hs).used
  · exact fun _ _ _ hd hrun hr => (hd.retired hrun hr).2
  · exact fun _ _ _ ht hrun hr => (ht.retired hrun hr).2
  · intro d hfree op hop
    have hQ : ∀ (res : Option ConnectionState) (d' : DirectRun σ), Relation.ReflTransGen (DirectRun.Step w) d d' →
        ∃ d'', Relation.ReflTransGen (DirectRun.Step w) d d'' ∧
          d''.controller = d'.controller ∧ (d''.world, d''.trace) = (d'.world, d'.trace) :=
      fun _ d' h => ⟨d', h, rfl, rfl⟩
    simp only [List.mem_cons, List.not_mem_nil, or_false] at hop
    rcases hop with rfl | rfl
    · exact DirectRun.await?_steps hQ (.connect hfree)
    · exact DirectRun.await?_steps hQ (.disconnect hfree)

/-- A fresh direct run with scripted transports that connects reaches a point where the calls agree
with the controller. -/
theorem transport_calls_after_connect :
    ((DirectRun.fresh {} ({} : Scripted)).perform (Ctl.connect Scripted.world.recorded)
      Caller.ofOutcome).Reachable Scripted.world ∧
    Calls ((DirectRun.fresh {} ({} : Scripted)).perform (Ctl.connect Scripted.world.recorded)
      Caller.ofOutcome).controller
      ((DirectRun.fresh {} ({} : Scripted)).perform (Ctl.connect Scripted.world.recorded)
      Caller.ofOutcome).trace :=
  have hd := @DirectRun.reachable_fresh_connect _ Scripted.world {} ({} : Scripted)
  ⟨hd, (transport_calls_follow_lifecycle Scripted Scripted.world fun _ => false).1 _ hd⟩

end VoiceSession
