import VoiceSession.Proofs.StaleEvents
import VoiceSession.Proofs.Serving
import VoiceSession.Proofs.DirectRuns
/-!
# Connecting again starts afresh

With nothing queued, connecting again after a session ended does exactly what connecting a fresh
controller with the same settings does, once it numbers sessions on from the old one and shows its
status. An envelope of an earlier session still queued takes a turn of the new wait, and can change
what follows.
-/

namespace VoiceSession

namespace Controller

/-- A freshly constructed controller with the settings of `c`, numbering its sessions on from
where `c` stopped and showing `c`'s status; it carries `c`'s record of changes, which no
operation reads. -/
def restarted (c : Controller) : Controller :=
  { ofSettings c.settings with
    started := c.started, view := { status := c.view.status }, transitions := c.transitions }

example : (ofSettings {}).restarted = ofSettings {} := rfl

end Controller

namespace Ctl

variable {σ α : Type} (w : World σ)

theorem run_eq_of_wp {x : Ctl σ α} {c c' : Controller} {s : σ}
    (h : ∀ Q, wp x Q c s = wp x Q c' s) : (x.run c).run s = (x.run c').run s :=
  (cast (h fun a c₁ s₁ => ((a, c₁), s₁) = (x.run c).run s) rfl).symm

/-- Connecting from an idle consistent controller with nothing awaited and nothing queued does
what connecting from its restarted form does: after the opening steps the two are equal. -/
theorem wp_connect_restarted {c : Controller} (hc : c.Consistent)
    (hidle : c.view.connection = .idle) (hw : c.waiting = none) (hin : c.inbox = [])
    (Q : Option ConnectionState → Controller → σ → Prop) (s : σ) :
    wp (connect w) Q c s = wp (connect w) Q c.restarted s := by
  -- what the last release left behind: the idle controller holds nothing of its session
  obtain ⟨hb, ht, _, hq⟩ := hc.cleared hidle
  have hs : c.session = none := hc.agrees.none_iff.2 hidle
  have hv : c.view.session = none := by rw [hc.shown, hs]; rfl
  have hbinder : c.binder = {} := by
    cases hbc : c.binder
    simp_all
  simp only [Controller.restarted, Controller.ofSettings]
  simp only [connect, wp_bind, wp_get, Controller.state, wp_modify, wp_modifyView, wp_setState,
    wp_lift, hidle, ConnectionState.canConnect, beq_self_eq_true, Bool.not_true,
    Bool.false_eq_true, if_false, hs, hv, ht, hin, hq, hw, hbinder]

theorem connect_restarted {c : Controller} (hc : c.Consistent)
    (hidle : c.view.connection = .idle) (hw : c.waiting = none) (hin : c.inbox = []) (s : σ) :
    ((connect w).run c).run s = ((connect w).run c.restarted).run s :=
  run_eq_of_wp (wp_connect_restarted w hc hidle hw hin · s)

end Ctl

variable {σ : Type} {w : World σ}

/-- A direct run that connects again from an idle point with nothing queued goes on as one
that connects from the restarted controller. -/
theorem DirectRun.Reachable.connect_restarted {d : DirectRun σ} (hd : d.Reachable w)
    (hfree : d.caller = .free) (hidle : d.controller.view.connection = .idle)
    (hin : d.controller.inbox = []) :
    d.perform (Ctl.connect w.recorded) Caller.ofOutcome =
      { d with controller := d.controller.restarted }.perform (Ctl.connect w.recorded)
        Caller.ofOutcome := by
  have hrun := Ctl.connect_restarted w.recorded hd.sound.consistent hidle
    (hd.sound.free hfree).1 hin (d.world, d.trace)
  simp only [DirectRun.perform, hrun]

/-- Connecting again after a session ended, with nothing queued, starts afresh: from an idle
consistent controller with nothing awaited, connect does exactly what it does from the restarted
controller, and so does a direct run that connects again from such a point. -/
theorem connect_after_end_starts_afresh (σ : Type) (w : World σ) :
    (∀ (c : Controller) (s : σ), c.Consistent → c.view.connection = .idle →
      c.waiting = none → c.inbox = [] →
      ((Ctl.connect w).run c).run s = ((Ctl.connect w).run c.restarted).run s) ∧
    (∀ d : DirectRun σ, d.Reachable w → d.caller = .free →
      d.controller.view.connection = .idle → d.controller.inbox = [] →
      d.perform (Ctl.connect w.recorded) Caller.ofOutcome =
        { d with controller := d.controller.restarted }.perform (Ctl.connect w.recorded)
          Caller.ofOutcome) :=
  ⟨fun _ s hc hidle hw hin => Ctl.connect_restarted w hc hidle hw hin s,
    fun _ hd hfree hidle hin => hd.connect_restarted hfree hidle hin⟩

/-- A direct run whose first connect is refused ends idle showing the error, with nothing
queued, and connects again as the restarted controller does. -/
theorem reconnect_after_refused_connect :
    ((DirectRun.fresh {} ({ script := { createError := some "refused" } } : Scripted)).perform
      (Ctl.connect Scripted.world.recorded) Caller.ofOutcome).Reachable Scripted.world ∧
    ((DirectRun.fresh {} ({ script := { createError := some "refused" } } : Scripted)).perform
      (Ctl.connect Scripted.world.recorded) Caller.ofOutcome).controller.view.status = "Error" ∧
    (((DirectRun.fresh {} ({ script := { createError := some "refused" } } : Scripted)).perform
      (Ctl.connect Scripted.world.recorded) Caller.ofOutcome).perform
        (Ctl.connect Scripted.world.recorded) Caller.ofOutcome =
      { ((DirectRun.fresh {} ({ script := { createError := some "refused" } } : Scripted)).perform
          (Ctl.connect Scripted.world.recorded) Caller.ofOutcome) with
        controller := ((DirectRun.fresh {} ({ script := { createError := some "refused" } } :
          Scripted)).perform (Ctl.connect Scripted.world.recorded)
            Caller.ofOutcome).controller.restarted }.perform
        (Ctl.connect Scripted.world.recorded) Caller.ofOutcome) :=
  have hd := @DirectRun.reachable_fresh_connect _ Scripted.world {}
    ({ script := { createError := some "refused" } } : Scripted)
  ⟨hd, by decide +kernel,
    (connect_after_end_starts_afresh Scripted Scripted.world).2 _ hd
      (by decide +kernel) (by decide +kernel) (by decide +kernel)⟩

/-- With an envelope of the ended session still queued, connecting again does not start
afresh. The run connects, disconnects, scripts the next transport to report the end of its
session as its devices call starts, queues a connected event of the ended session, and connects
again: the new session is asked to join. A fresh controller given the same script connects and
its session ends after the devices call, without a join. -/
theorem stale_envelope_spoils_fresh_start :
    ((Bench.steps ⟨.ofSettings {}, {}⟩ [.connect, .disconnect,
        .setScript { deviceYields := 1, onDevice := [.disconnected] }, .emit ⟨0⟩ .connected,
        .connect]).1.getLast?.map (·.calls) =
      some ["s1:create", "s1:initialize_devices",
        "s1:connect http://localhost:7860/connect mic=true cam=false"]) ∧
    ((Bench.steps ⟨.ofSettings {}, {}⟩
        [.setScript { deviceYields := 1, onDevice := [.disconnected] }, .connect]).1.getLast?.map
        (·.calls) =
      some ["s0:create", "s0:initialize_devices"]) := by
  decide +kernel

end VoiceSession
