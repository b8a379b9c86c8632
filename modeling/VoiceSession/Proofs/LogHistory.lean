import VoiceSession.Proofs.Journal
import VoiceSession.Proofs.Publication
import VoiceSession.Proofs.Restart
/-!
# The log along a run

Every log entry was written by a place of `Line`, and the status shown is the last status entry's
(`View.Recorded`). Along a run the log only grows, but where a connect from idle empties it, and
what that connect does depends on the old log in no way.
-/

namespace VoiceSession

open Controller

namespace View

def StatusShown (v : View) : Prop :=
  ∀ e, (v.entries .status).getLast? = some e → e.text = "Status: " ++ v.status

/-- Every entry of the log was written by a place of the code, and the last status entry shows
the status. -/
structure Recorded (v : View) : Prop where
  lines : ∃ ls : List Line, v.log = ls.map Line.entry
  statusShown : v.StatusShown

theorem entries_of_lines {v : View} {ls : List Line} (h : v.log = ls.map Line.entry)
    (cat : LogCategory) : v.entries cat = (ls.filter (·.category == cat)).map Line.entry := by
  simp [entries, h, List.filter_map, Function.comp_def]

theorem Line.category_eq_status {l : Line} : l.category = .status ↔ ∃ s, l = .status s := by
  cases l <;> simp [Line.category]

/-- Writing one line keeps the status shown: a status line shows the status it sets, and any
other line leaves both the status and the last status entry. -/
theorem StatusShown.write {v : View} (h : v.StatusShown) (l : Line) :
    { v with log := v.log ++ [l.entry], status := l.after v.status }.StatusShown := by
  intro e he
  simp only [entries, List.filter_append, List.filter_singleton, Line.entry_category] at he
  by_cases hl : l.category = .status
  · obtain ⟨s, rfl⟩ := Line.category_eq_status.1 hl
    simp only [hl, beq_self_eq_true, cond_true, List.getLast?_append_cons,
      List.getLast?_singleton, Option.some.injEq] at he
    subst he
    rfl
  · have hne : (l.category == .status) = false := beq_false_of_ne hl
    rw [hne, cond_false, List.append_nil] at he
    rw [Line.after_of_category hl]
    exact h e he

theorem StatusShown.append {v v' : View} (ls : List Line) (h : v.StatusShown)
    (hlog : v'.log = v.log ++ ls.map Line.entry) (hst : v'.status = ls.foldl Line.after v.status) :
    v'.StatusShown := by
  -- the lines are written one after another, each over the view the previous one left
  induction ls generalizing v with
  | nil =>
      intro e he
      rw [hst]
      exact h e (by simpa [entries, hlog] using he)
  | cons l ls ih =>
      exact ih (h.write l) (by simp [hlog]) hst

theorem Recorded.journal {v : View} {ls : List Line} {c : Controller} (hv : v.Recorded)
    (h : c.Journal v ls) : c.view.Recorded where
  lines := by
    obtain ⟨ls₀, h₀⟩ := hv.lines
    exact ⟨ls₀ ++ ls, by rw [h.log, h₀, List.map_append]⟩
  statusShown := hv.statusShown.append ls h.log h.status

theorem recorded_clear (v : View) : { v with log := [] }.Recorded where
  lines := ⟨[], rfl⟩
  statusShown := fun e he => by simp [entries] at he

end View

namespace Controller

/-- What holds of the log at every point of a run: its entries were written by the code's places,
the status is the last status entry's, and the view and the snapshot offer what their states
allow. -/
structure Logged (c : Controller) : Prop where
  recorded : c.view.Recorded
  offers : c.view.Offers
  shows : c.published.Offers

section Logged

variable {c : Controller} {P : Line → Prop} {v : View}

theorem Logged.writes (h : c.Logged) : c.Writes P c.view :=
  ⟨[], by simp, journal_self h.offers h.shows⟩

theorem Writes.logged (h : c.Writes P v) (hv : v.Recorded) : c.Logged := by
  obtain ⟨ls, -, hj⟩ := h
  exact ⟨hv.journal hj, hj.offers, hj.shows⟩

theorem Writes.prefix (h : c.Writes P v) : v.log <+: c.view.log := by
  obtain ⟨ls, -, hj⟩ := h
  exact hj.prefix

theorem logged_ofSettings (s : ControllerSettings) : (ofSettings s).Logged where
  recorded := View.recorded_clear {}
  offers := (consistent_ofSettings s).toOffers.view
  shows := (consistent_ofSettings s).toOffers.view

theorem Logged.enqueue (h : c.Logged) (e : Envelope) : (c.enqueue e).Logged := { h with }

end Logged

end Controller

namespace Ctl

variable {σ : Type} (w : World σ)

theorem logged_of_writes {α : Type} {x : Ctl σ α}
    (hx : ∀ v, Triple (fun c _ => c.Writes (fun _ => True) v) x
      (fun _ c _ => c.Writes (fun _ => True) v)) :
    Triple (fun c _ => c.Logged) x (fun _ c _ => c.Logged) := fun c _ h =>
  (hx c.view).wp h.writes fun _ _ _ h' => h'.logged h.recorded

theorem dispatch_logged (e : Envelope) :
    Triple (fun c _ => c.Logged) (dispatch w e) (fun _ c _ => c.Logged) :=
  logged_of_writes fun _ => dispatch_writes w e

theorem processPending_logged :
    Triple (fun c _ => c.Logged) (processPending w) (fun _ c _ => c.Logged) :=
  logged_of_writes fun _ => processPending_writes w

theorem disconnect_logged :
    Triple (fun c _ => c.Logged) (disconnect w) (fun _ c _ => c.Logged) :=
  logged_of_writes fun _ => disconnect_writes w fun _ _ => trivial

theorem turn_logged : Triple (fun c _ => c.Logged) (turn w) (fun _ c _ => c.Logged) :=
  logged_of_writes fun _ => turn_writes w

theorem connect_logged : Triple (fun c _ => c.Logged) (connect w) (fun _ c _ => c.Logged) := by
  intro c s h
  by_cases hidle : c.view.connection = .idle
  · exact (connect_writes_of_idle w (fun _ _ => trivial) c.view).wp
      ⟨rfl, hidle, h.offers, h.shows⟩ fun _ _ _ h' => h'.logged (View.recorded_clear _)
  · have hw : c.Writes (fun _ => True) c.view := h.writes
    exact (connect_writes_of_not_idle w).wp ⟨hw, hidle⟩ fun _ _ _ h' => h'.logged h.recorded

theorem serveMove_logged (closed : σ → Bool) (a : Activity) :
    Triple (fun c _ => c.Logged) (serveMove w closed a) (fun _ c _ => c.Logged) :=
  serveMove_triple w closed a
    (fun _ _ _ e _ h _ => (dispatch_logged w e).wp { h with } fun _ _ _ h => h)
    (fun _ _ _ h _ => h)
    (fun _ _ _ h => (connect_logged w).wp h fun res _ _ h' => proceed_keeps w _ _ res _ _ h')
    (fun _ _ _ h => (disconnect_logged w).wp h fun res _ _ h' => proceed_keeps w _ _ res _ _ h')
    (fun _ _ h => h) (fun _ => turn_logged w) (complete_keeps w _ a) (fun _ _ _ _ h => h)

/-- A move of the task only appends to the log, unless it listens with nothing queued from idle,
when the command it takes may be a connect. -/
theorem serveMove_writes (closed : σ → Bool) (a : Activity) {c₀ : Controller} (h₀ : c₀.Logged)
    (hmove : ¬(a = .listening ∧ c₀.inbox = [] ∧ c₀.view.connection = .idle)) :
    Triple (fun c _ => c = c₀) (serveMove w closed a)
      (fun _ c _ => c.Writes (fun _ => True) c₀.view) :=
  have hw : c₀.Writes (fun _ => True) c₀.view := h₀.writes
  serveMove_triple w closed a (R := fun c _ => c = c₀ ∧ c₀.view.connection ≠ .idle)
    (fun _ c _ e queued h _ => by
      subst h
      have hq : { c with inbox := queued }.Writes (fun _ => True) c.view :=
        hw.congr rfl rfl hw.offers hw.shows
      exact (dispatch_writes w e).wp hq fun _ _ _ h => h)
    (fun hl _ _ h hin => ⟨h, fun hidle => hmove ⟨hl, h ▸ hin, hidle⟩⟩)
    (fun _ _ _ ⟨h, hidle⟩ => (connect_writes_of_not_idle w).wp ⟨h ▸ hw, h ▸ hidle⟩
      fun res _ _ h' => proceed_keeps w _ _ res _ _ h')
    (fun _ _ _ ⟨h, _⟩ => (disconnect_writes w fun _ _ => trivial).wp (h ▸ hw)
      fun res _ _ h' => proceed_keeps w _ _ res _ _ h')
    (fun _ _ ⟨h, _⟩ => h ▸ hw) (fun _ _ _ h => (turn_writes w).wp (h ▸ hw) fun _ _ _ h => h)
    (complete_keeps w _ a) (fun _ _ _ _ h => h)

def Appends {α : Type} (x : Ctl σ α) : Prop :=
  ∀ c s, c.Logged → wp x (fun _ c' _ => c.view.log <+: c'.view.log) c s

theorem appends_of_writes {α : Type} {x : Ctl σ α}
    (hx : ∀ v, Triple (fun c _ => c.Writes (fun _ => True) v) x
      (fun _ c _ => c.Writes (fun _ => True) v)) : Appends x := fun c _ h =>
  (hx c.view).wp h.writes fun _ _ _ h' => h'.prefix

/-- A connect from idle empties the log before anything else: what it does is the same whatever
the log was. -/
theorem wp_connect_forgets_log {c : Controller} (hidle : c.view.connection = .idle)
    (log : List LogEntry) (Q : Option ConnectionState → Controller → σ → Prop) (s : σ) :
    wp (connect w) Q { c with view := { c.view with log := log } } s = wp (connect w) Q c s := by
  have hcan : c.state.canConnect = true := by
    simp [Controller.state, hidle, ConnectionState.canConnect]
  have hcan' : ({ c with view := { c.view with log := log } } : Controller).state.canConnect =
    true := hcan
  simp only [connect, wp_bind, wp_get, hcan, hcan', Bool.not_true, Bool.false_eq_true, if_false,
    wp_modify, wp_modifyView]

theorem connect_forgets_log {c : Controller} (hidle : c.view.connection = .idle)
    (log : List LogEntry) (s : σ) :
    ((connect w).run { c with view := { c.view with log := log } }).run s =
      ((connect w).run c).run s :=
  run_eq_of_wp (wp_connect_forgets_log w hidle log · s)

end Ctl

/-! ### Every run -/

namespace DirectRun

variable {σ : Type} {w : World σ}

theorem logged_step {d d' : DirectRun σ} (h : d.controller.Logged) (hs : Step w d d') :
    d'.controller.Logged := by
  cases hs with
  | connect _ =>
      exact @perform_of_wp _ _ _ _ _ (·.controller.Logged)
        ((Ctl.connect_logged _).wp h fun _ _ _ h => h)
  | disconnect _ =>
      exact @perform_of_wp _ _ _ _ _ (·.controller.Logged)
        ((Ctl.disconnect_logged _).wp h fun _ _ _ h => h)
  | process _ =>
      exact @perform_of_wp _ _ _ _ _ (·.controller.Logged)
        ((Ctl.processPending_logged _).wp h fun _ _ _ h => h)
  | turn _ =>
      exact @perform_of_wp _ _ _ _ _ (·.controller.Logged)
        ((Ctl.turn_logged _).wp h fun _ _ _ h => h)
  | event e => exact h.enqueue e
  | world s => exact h

theorem Reachable.logged {d : DirectRun σ} (hd : d.Reachable w) : d.controller.Logged := by
  induction hd with
  | fresh settings s => exact logged_ofSettings settings
  | step _ hs ih => exact logged_step ih hs

theorem Reachable.log_grows {d d' : DirectRun σ} (hd : d.Reachable w) (hs : Step w d d') :
    d.controller.view.log <+: d'.controller.view.log ∨
      d.caller = .free ∧ d.controller.view.connection = .idle ∧
        d' = d.perform (Ctl.connect w.recorded) Caller.ofOutcome := by
  have h : d.controller.Writes (fun _ => True) d.controller.view := hd.logged.writes
  -- what an operation appends, read off the journal it keeps
  let Grows (d' : DirectRun σ) : Prop := d.controller.view.log <+: d'.controller.view.log
  cases hs with
  | connect hfree =>
      by_cases hidle : d.controller.view.connection = .idle
      · exact .inr ⟨hfree, hidle, rfl⟩
      · exact .inl <| @perform_of_wp _ _ _ _ _ Grows
          ((Ctl.connect_writes_of_not_idle _).wp ⟨h, hidle⟩ fun _ _ _ h' => h'.prefix)
  | disconnect _ =>
      exact .inl <| @perform_of_wp _ _ _ _ _ Grows
        ((Ctl.disconnect_writes _ fun _ _ => trivial).wp h fun _ _ _ h' => h'.prefix)
  | process _ =>
      exact .inl <| @perform_of_wp _ _ _ _ _ Grows
        ((Ctl.processPending_writes _).wp h fun _ _ _ h' => h'.prefix)
  | turn _ =>
      exact .inl <| @perform_of_wp _ _ _ _ _ Grows
        ((Ctl.turn_writes _).wp h fun _ _ _ h' => h'.prefix)
  | event e => exact .inl (List.prefix_refl _)
  | world s => exact .inl (List.prefix_refl _)

end DirectRun

namespace ControllerTask

variable {σ : Type} {w : World σ} {closed : σ → Bool}

theorem Reachable.logged {t : ControllerTask σ} (ht : t.Reachable w closed) :
    t.controller.Logged := by
  induction ht with
  | fresh settings s => exact logged_ofSettings settings
  | step _ hs ih =>
      cases hs with
      | move _ =>
          refine @move_of_wp σ w closed _ (fun t' => t'.controller.Logged) ?_
          refine (Ctl.serveMove_logged _ _ _).wp ih fun m _ _ h => ?_
          cases m <;> exact h
      | event e _ => exact ih.enqueue e
      | world s => exact ih

/-- Each move of the task appends to the log, but one that listens with nothing queued from idle,
which may take a connect. -/
theorem Reachable.log_grows {t t' : ControllerTask σ} (ht : t.Reachable w closed)
    (hs : Step w closed t t') :
    t.controller.view.log <+: t'.controller.view.log ∨
      t.activity = .listening ∧ t.controller.inbox = [] ∧ t.controller.view.connection = .idle := by
  cases hs with
  | move _ =>
      by_cases hmove : t.activity = .listening ∧ t.controller.inbox = [] ∧
          t.controller.view.connection = .idle
      · exact .inr hmove
      refine .inl <| @move_of_wp σ w closed t
        (fun t' => t.controller.view.log <+: t'.controller.view.log) ?_
      refine (Ctl.serveMove_writes _ _ _ ht.logged hmove).wp rfl fun m _ _ h => ?_
      cases m <;> exact h.prefix
  | event e _ => exact .inl (List.prefix_refl _)
  | world s => exact .inl (List.prefix_refl _)

end ControllerTask

/-- **The log only grows, but where a connect from idle empties it.** Every operation but an accepted
connect keeps the old log as a prefix; such a connect does the same whatever the old log was; and
along every run the last status entry, if any, reads `Status: ` and the status shown. -/
theorem log_appends_between_connects (σ : Type) (w : World σ) (closed : σ → Bool) :
    (∀ e, Ctl.Appends (Ctl.dispatch w e)) ∧ Ctl.Appends (Ctl.processPending w) ∧
    Ctl.Appends (Ctl.disconnect w) ∧ Ctl.Appends (Ctl.turn w) ∧
    (∀ (c : Controller) (s : σ), c.Logged → c.view.connection ≠ .idle →
      Ctl.wp (Ctl.connect w) (fun _ c' _ => c.view.log <+: c'.view.log) c s) ∧
    (∀ (c : Controller) (s : σ) (log : List LogEntry), c.view.connection = .idle →
      ((Ctl.connect w).run { c with view := { c.view with log := log } }).run s =
        ((Ctl.connect w).run c).run s) ∧
    (∀ (c : Controller) (s : σ), c.Logged → c.view.connection = .idle →
      Ctl.wp (Ctl.connect w) (fun _ c' _ => ∃ ls : List Line,
        c'.view.log = ls.map Line.entry ∧ ∀ l ∈ ls, l.OfController) c s) ∧
    (∀ d d' : DirectRun σ, d.Reachable w → DirectRun.Step w d d' →
      d.controller.view.log <+: d'.controller.view.log ∨
        d.caller = .free ∧ d.controller.view.connection = .idle ∧
          d' = d.perform (Ctl.connect w.recorded) Caller.ofOutcome) ∧
    (∀ t t' : ControllerTask σ, t.Reachable w closed → ControllerTask.Step w closed t t' →
      t.controller.view.log <+: t'.controller.view.log ∨
        t.activity = .listening ∧ t.controller.inbox = [] ∧
          t.controller.view.connection = .idle) ∧
    (∀ d : DirectRun σ, d.Reachable w → d.controller.view.StatusShown) ∧
    (∀ t : ControllerTask σ, t.Reachable w closed → t.controller.view.StatusShown) := by
  have hown : ∀ l : Line, l.OfController → l.OfController := fun _ h => h
  refine ⟨fun e => Ctl.appends_of_writes fun _ => Ctl.dispatch_writes w e,
    Ctl.appends_of_writes fun _ => Ctl.processPending_writes w,
    Ctl.appends_of_writes fun _ => Ctl.disconnect_writes w fun _ _ => trivial,
    Ctl.appends_of_writes fun _ => Ctl.turn_writes w, fun c s h hidle => ?_,
    fun c s log hidle => Ctl.connect_forgets_log w hidle log s, fun c s h hidle => ?_,
    fun _ _ hd hs => hd.log_grows hs, fun _ _ ht hs => ht.log_grows hs,
    fun _ hd => hd.logged.recorded.statusShown, fun _ ht => ht.logged.recorded.statusShown⟩
  · have hw : c.Writes (fun _ => True) c.view := h.writes
    exact (Ctl.connect_writes_of_not_idle w).wp ⟨hw, hidle⟩ fun _ _ _ h' => h'.prefix
  · -- from an emptied log, the lines written are all the log holds
    refine (Ctl.connect_writes_of_idle w hown c.view).wp ⟨rfl, hidle, h.offers, h.shows⟩
      fun _ _ _ ⟨ls, hls, hj⟩ => ⟨ls, ?_, hls⟩
    simpa using hj.log

/-- A fresh direct run with scripted transports that connects shows its status in the last
status entry of its log. -/
theorem status_shown_after_connect :
    ((DirectRun.fresh {} ({} : Scripted)).perform (Ctl.connect Scripted.world.recorded)
      Caller.ofOutcome).Reachable Scripted.world ∧
    ((DirectRun.fresh {} ({} : Scripted)).perform (Ctl.connect Scripted.world.recorded)
      Caller.ofOutcome).controller.view.StatusShown :=
  have hd := @DirectRun.reachable_fresh_connect _ Scripted.world {} ({} : Scripted)
  ⟨hd, (log_appends_between_connects Scripted Scripted.world fun _ => false).2.2.2.2.2.2.2.2.2.1 _ hd⟩

end VoiceSession
