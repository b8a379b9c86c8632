import VoiceSession.Proofs.LogHistory
/-!
# The log by category

Beside its log the controller records the envelopes it routed and the statuses it set since the
log was last emptied. Along every run the user, bot and status entries are the final user
transcripts and bot transcripts routed and the statuses set, in order (`Controller.Filed`).
-/

namespace VoiceSession

open Json

namespace Line

def spoken : Line → Bool
  | .userTranscript _ | .botTranscript _ => true
  | _ => false

def statusOf : Line → Option String
  | .status s => some s
  | _ => none

theorem spoken_of_category {l : Line} (h : l.category = .user ∨ l.category = .bot) :
    l.spoken = true := by
  cases l <;> simp_all [category, spoken]

theorem filter_spoken {cat : LogCategory} (hcat : cat = .user ∨ cat = .bot) (ls : List Line) :
    (ls.filter spoken).filter (·.category == cat) = ls.filter (·.category == cat) := by
  rw [List.filter_filter]
  refine List.filter_congr fun l _ => ?_
  by_cases hl : l.category = cat
  · simp [hl, spoken_of_category (hl ▸ hcat)]
  · simp [hl]

theorem filter_status (ls : List Line) :
    ls.filter (·.category == .status) = (ls.filterMap statusOf).map .status := by
  induction ls with
  | nil => rfl
  | cons l ls ih =>
    rw [List.filter_cons, List.filterMap_cons, ih]
    cases l <;> rfl

end Line

def Event.userSays : Event → Option String
  | .userTranscript t => if t.isFinal then some t.text else none
  | _ => none

def Event.botSays : Event → Option String
  | .botTranscript t => some t.text
  | _ => none

theorem Event.lines_user (render : Value → String) (ev : Event) :
    (ev.lines render).filter (·.category == .user) = (ev.userSays.map Line.userTranscript).toList := by
  cases ev with
  | userTranscript t => by_cases h : t.isFinal <;> simp [lines, userSays, h, Line.category]
  | _ => simp [lines, userSays, Line.category]

theorem Event.lines_bot (render : Value → String) (ev : Event) :
    (ev.lines render).filter (·.category == .bot) = (ev.botSays.map Line.botTranscript).toList := by
  cases ev with
  | userTranscript t => by_cases h : t.isFinal <;> simp [lines, botSays, h, Line.category]
  | _ => simp [lines, botSays, Line.category]

namespace Controller

/-- What the log files by category against the ghosts beside it: its transcript lines are those
of the envelopes routed and its status lines those of the statuses set; every envelope routed,
and every live session, is of the session started last. -/
structure Filed (render : Value → String) (c : Controller) : Prop where
  lines : ∃ ls : List Line, c.view.log = ls.map Line.entry ∧
    ls.filter Line.spoken = (c.routed.flatMap (·.event.lines render)).filter Line.spoken ∧
    ls.filterMap Line.statusOf = c.statusChanges
  current : ∀ e ∈ c.routed, e.session.index + 1 = c.started
  latest : ∀ id, c.isLive id = true → id.index + 1 = c.started

section Filed

variable {render : Value → String} {c : Controller}

theorem Filed.congr {c' : Controller} (h : c.Filed render) (hlog : c'.view.log = c.view.log)
    (hrouted : c'.routed = c.routed) (hstatus : c'.statusChanges = c.statusChanges)
    (hstarted : c'.started = c.started) (hlive : ∀ id, c'.isLive id = true → c.isLive id = true) :
    c'.Filed render where
  lines := by
    rw [hlog, hrouted, hstatus]
    exact h.lines
  current := by
    rw [hrouted, hstarted]
    exact h.current
  latest := fun id hid => hstarted ▸ h.latest id (hlive id hid)

theorem Filed.keep {c' : Controller} (h : c.Filed render) (hlog : c'.view.log = c.view.log)
    (hrouted : c'.routed = c.routed) (hstatus : c'.statusChanges = c.statusChanges)
    (hstarted : c'.started = c.started) (hsession : c'.session = c.session) : c'.Filed render :=
  h.congr hlog hrouted hstatus hstarted fun id hid => by
    rwa [isLive, hsession] at hid

theorem Filed.write (h : c.Filed render) (l : Line) (hs : l.spoken = false)
    (hq : l.statusOf = none) :
    { c with view := { c.view with log := c.view.log ++ [LogEntry.ofText l.text] } }.Filed render where
  lines := by
    obtain ⟨ls, hlog, hsp, hst⟩ := h.lines
    exact ⟨ls ++ [l], by simp [hlog, Line.entry], by simp [hs, hsp], by simp [hq, hst]⟩
  current := h.current
  latest := h.latest

theorem Filed.setStatus (h : c.Filed render) (s : String) :
    { c with view := { c.view with log := c.view.log ++ [LogEntry.ofText ("Status: " ++ s)],
                                   status := s }
             statusChanges := c.statusChanges ++ [s] }.Filed render where
  lines := by
    obtain ⟨ls, hlog, hsp, hst⟩ := h.lines
    refine ⟨ls ++ [.status s], by rw [hlog, List.map_append]; rfl, ?_, ?_⟩
    · simpa [Line.spoken] using hsp
    · simp [Line.statusOf, hst]
  current := h.current
  latest := h.latest

/-- An envelope of the live session routed next is, like those before it, of the session started
last. -/
theorem Filed.current_route (h : c.Filed render) {e : Envelope} (hlive : c.isLive e.session = true) :
    ∀ e' ∈ c.routed ++ [e], e'.session.index + 1 = c.started := by
  intro e' he'
  rcases List.mem_append.1 he' with he' | he'
  · exact h.current e' he'
  · rw [List.mem_singleton.1 he']
    exact h.latest e.session hlive

theorem Filed.route (h : c.Filed render) (e : Envelope) (hlive : c.isLive e.session = true)
    (hquiet : (e.event.lines render).filter Line.spoken = []) :
    { c with routed := c.routed ++ [e] }.Filed render where
  lines := by
    obtain ⟨ls, hlog, hsp, hst⟩ := h.lines
    exact ⟨ls, hlog, by simp [hsp, hquiet], hst⟩
  current := h.current_route hlive
  latest := h.latest

theorem Filed.say (h : c.Filed render) (e : Envelope) (hlive : c.isLive e.session = true)
    (l : Line) (hsaid : e.event.lines render = [l]) (hs : l.spoken = true)
    (hq : l.statusOf = none) :
    { c with routed := c.routed ++ [e],
             view := { c.view with log := c.view.log ++ [LogEntry.ofText l.text] } }.Filed render where
  lines := by
    obtain ⟨ls, hlog, hsp, hst⟩ := h.lines
    exact ⟨ls ++ [l], by simp [hlog, Line.entry], by simp [hsp, hsaid, hs], by simp [hq, hst]⟩
  current := h.current_route hlive
  latest := h.latest

theorem filed_ofSettings (render : Value → String) (s : ControllerSettings) :
    (ofSettings s).Filed render where
  lines := ⟨[], rfl, rfl, rfl⟩
  current := by simp [ofSettings]
  latest := by simp [ofSettings, isLive]

theorem Filed.enqueue (h : c.Filed render) (e : Envelope) : (c.enqueue e).Filed render :=
  h.keep rfl rfl rfl rfl rfl

theorem Filed.entries_spoken (h : c.Filed render) {cat : LogCategory} (hcat : cat = .user ∨ cat = .bot) :
    c.view.entries cat =
      (c.routed.flatMap fun e => (e.event.lines render).filter (·.category == cat)).map Line.entry := by
  obtain ⟨ls, hlog, hsp, -⟩ := h.lines
  rw [View.entries_of_lines hlog, ← Line.filter_spoken hcat, hsp, Line.filter_spoken hcat,
    List.filter_flatMap]

end Filed

/-- What the log shows by category: it is made of lines the code's places wrote, its user entries
are the final user transcripts routed, its bot entries the bot transcripts routed, and its status
entries the statuses set, in order; every envelope routed is of the session started last. -/
structure Transcribed (c : Controller) : Prop where
  lines : ∃ ls : List Line, c.view.log = ls.map Line.entry
  user : c.view.entries .user =
    c.routed.filterMap fun e => e.event.userSays.map fun t => LogEntry.ofText ("User: " ++ t)
  bot : c.view.entries .bot =
    c.routed.filterMap fun e => e.event.botSays.map fun t => LogEntry.ofText ("Bot: " ++ t)
  status : c.view.entries .status = c.statusChanges.map fun s => LogEntry.ofText ("Status: " ++ s)
  current : ∀ e ∈ c.routed, e.session.index + 1 = c.started

theorem Filed.transcribed {render : Value → String} {c : Controller} (h : c.Filed render) :
    c.Transcribed where
  lines := by
    obtain ⟨ls, hlog, -, -⟩ := h.lines
    exact ⟨ls, hlog⟩
  user := by
    rw [h.entries_spoken (.inl rfl), List.filterMap_eq_flatMap_toList, List.map_flatMap]
    congr 1
    funext e
    rw [Event.lines_user]
    cases e.event.userSays <;> rfl
  bot := by
    rw [h.entries_spoken (.inr rfl), List.filterMap_eq_flatMap_toList, List.map_flatMap]
    congr 1
    funext e
    rw [Event.lines_bot]
    cases e.event.botSays <;> rfl
  status := by
    obtain ⟨ls, hlog, -, hst⟩ := h.lines
    rw [View.entries_of_lines hlog, Line.filter_status, hst, List.map_map]
    rfl
  current := h.current

end Controller

open Controller

namespace Ctl

variable {σ : Type} (w : World σ)

theorem dispatch_routed (e : Envelope) (r : List Envelope) (live : Bool) :
    Triple (fun c _ => c.routed = r ∧ c.isLive e.session = live) (dispatch w e)
      (fun _ c _ => c.routed = r ++ if live then [e] else []) := by
  rintro c s ⟨rfl, rfl⟩
  simp only [dispatch, wp_bind, wp_isLive]
  cases hlive : c.isLive e.session
  · simp
  obtain ⟨id, ev⟩ := e
  simp only [Bool.not_true, Bool.false_eq_true, if_false, if_true, wp_bind, wp_modify]
  cases ev
  case disconnected =>
    simp only [wp_bind, releaseSession, wp_modify, wp_useBinder, wp_modifyView, wp_setState,
      wp_notifyWaiters, wp_setStatus, wp_publish]
  all_goals
    simp only [wp_bind, wp_setState, wp_setStatus, wp_modifyView, wp_publish, wp_log, wp_useBinder,
      wp_reconcileTracks, wp_ite, ite_self]

theorem releaseSession_filed (reason : SessionEnd) :
    Triple (fun c _ => c.Filed w.render) (releaseSession w reason)
      (fun _ c _ => c.Filed w.render) := by
  intro c s h
  simp only [releaseSession, wp_bind, wp_modify, wp_useBinder, wp_modifyView, wp_setState,
    wp_notifyWaiters]
  exact h.congr rfl rfl rfl rfl fun _ hid => by simp [Controller.isLive] at hid

/-- A dispatch files what it writes: the envelope is routed when its session is live, with the
transcript its routing writes, and every status it shows is set. -/
theorem dispatch_filed (e : Envelope) :
    Triple (fun c _ => c.Filed w.render) (dispatch w e) (fun _ c _ => c.Filed w.render) := by
  intro c s h
  simp only [dispatch, wp_bind, wp_isLive]
  cases hlive : c.isLive e.session
  · simpa using h
  obtain ⟨id, ev⟩ := e
  simp only [Bool.not_true, Bool.false_eq_true, if_false, wp_bind, wp_modify]
  -- each case files the lines its routing writes over the envelope routed
  cases ev with
  | connected =>
      simp only [wp_bind, wp_setState, wp_setStatus, wp_publish]
      exact ((h.route _ hlive rfl).setStatus "Connected").keep rfl rfl rfl rfl rfl
  | disconnected =>
      simp only [wp_bind]
      refine (releaseSession_filed w .remote).wp (h.route _ hlive rfl) fun _ c' _ h' => ?_
      simp only [wp_bind, wp_setStatus, wp_publish]
      exact (h'.setStatus "Disconnected").keep rfl rfl rfl rfl rfl
  | transportStateChanged st =>
      simp only [wp_bind, wp_modifyView, wp_setStatus]
      have h' := (h.route _ hlive rfl).setStatus ("Transport: " ++ st.name)
      split
      · simp only [wp_bind, wp_reconcileTracks, wp_publish]
        exact h'.keep rfl rfl rfl rfl rfl
      · simp only [wp_publish]
        exact h'.keep rfl rfl rfl rfl rfl
  | trackStarted t p =>
      dsimp only
      split
      · simp only [wp_bind, wp_useBinder, wp_publish]
        exact (h.route _ hlive rfl).keep rfl rfl rfl rfl rfl
      · simp only [wp_publish]
        exact (h.route _ hlive rfl).keep rfl rfl rfl rfl rfl
  | trackStopped t p =>
      simp only [wp_bind, wp_log, wp_publish]
      exact ((h.route _ hlive rfl).write (.trackStopped t p) rfl rfl).keep rfl rfl rfl rfl rfl
  | botConnected p =>
      simp only [wp_bind, wp_log, wp_publish]
      exact ((h.route _ hlive rfl).write (.botConnected p) rfl rfl).keep rfl rfl rfl rfl rfl
  | botDisconnected p =>
      simp only [wp_bind, wp_log, wp_publish]
      exact ((h.route _ hlive rfl).write (.botDisconnected p) rfl rfl).keep rfl rfl rfl rfl rfl
  | botReady data =>
      simp only [wp_bind, wp_log, wp_reconcileTracks, wp_publish]
      exact ((h.route _ hlive rfl).write (.botReady (w.render data)) rfl rfl).keep
        rfl rfl rfl rfl rfl
  | userTranscript t =>
      dsimp only
      by_cases hfinal : t.isFinal = true
      · simp only [hfinal, if_true, wp_bind, wp_log, wp_publish]
        exact (h.say _ hlive (.userTranscript t.text) (by simp [Event.lines, hfinal]) rfl rfl).keep
          rfl rfl rfl rfl rfl
      · simp only [hfinal, Bool.false_eq_true, if_false, wp_publish]
        exact (h.route _ hlive (by simp [Event.lines, hfinal])).keep rfl rfl rfl rfl rfl
  | botTranscript t =>
      simp only [wp_bind, wp_log, wp_publish]
      exact (h.say _ hlive (.botTranscript t.text) rfl rfl rfl).keep rfl rfl rfl rfl rfl
  | searchResponse r =>
      simp only [wp_bind, wp_modifyView, wp_publish]
      exact (h.route _ hlive rfl).keep rfl rfl rfl rfl rfl
  | messageError data =>
      simp only [wp_bind, wp_log, wp_publish]
      exact ((h.route _ hlive rfl).write (.messageError (w.render data)) rfl rfl).keep
        rfl rfl rfl rfl rfl
  | error data =>
      simp only [wp_bind, wp_log, wp_publish]
      exact ((h.route _ hlive rfl).write (.runtimeError (w.render data)) rfl rfl).keep
        rfl rfl rfl rfl rfl

theorem processPending_filed :
    Triple (fun c _ => c.Filed w.render) (processPending w) (fun _ c _ => c.Filed w.render) := by
  intro c s h
  simp only [processPending, wp_bind, wp_get, wp_modify]
  exact (Triple.forIn fun e _ => dispatch_filed w e).wp (h.keep rfl rfl rfl rfl rfl)
    fun _ _ _ h => h

theorem afterLeave_filed (after : AfterLeave) :
    Triple (fun c _ => c.Filed w.render) (afterLeave w after) (fun _ c _ => c.Filed w.render) := by
  intro c s h
  cases after with
  | disconnect =>
      simp only [afterLeave, wp_bind, wp_setStatus]
      refine (processPending_filed w).wp (h.setStatus "Disconnected") fun _ _ _ h' => ?_
      simp only [wp_bind, wp_publish, wp_finish]
      exact h'.keep rfl rfl rfl rfl rfl
  | failedConnect =>
      simp only [afterLeave, wp_bind]
      refine (processPending_filed w).wp h fun _ _ _ h' => ?_
      simp only [wp_finish]
      exact h'.keep rfl rfl rfl rfl rfl

theorem teardown_filed (reason : SessionEnd) (after : AfterLeave) :
    Triple (fun c _ => c.Filed w.render) (teardown w reason after)
      (fun _ c _ => c.Filed w.render) := by
  intro c s h
  simp only [teardown, wp_bind, wp_get]
  cases c.session with
  | none =>
      simp only [wp_bind]
      exact (releaseSession_filed w reason).wp h fun _ _ _ h' =>
        (afterLeave_filed w after).wp h' fun _ _ _ h'' => h''
  | some a =>
      simp only [wp_bind, wp_modify, wp_await]
      -- the session marked as ended is no longer live
      exact h.congr rfl rfl rfl rfl fun _ hid => by simp [Controller.isLive] at hid

theorem failConnect_filed (f : Failure) :
    Triple (fun c _ => c.Filed w.render) (failConnect w f) (fun _ c _ => c.Filed w.render) := by
  intro c s h
  simp only [failConnect, wp_bind, wp_log, wp_setState, wp_setStatus]
  exact (teardown_filed w .connectFailed .failedConnect).wp
    (((h.write (.connectFailed f) rfl rfl).setStatus "Error").keep rfl rfl rfl rfl rfl)
    fun _ _ _ h => h

theorem disconnect_filed :
    Triple (fun c _ => c.Filed w.render) (disconnect w) (fun _ c _ => c.Filed w.render) := by
  intro c s h
  simp only [disconnect, wp_bind, wp_get]
  split
  · simp only [wp_bind, wp_notifyWaiters, wp_finish]
    exact h.keep rfl rfl rfl rfl rfl
  · simp only [wp_bind, wp_setState]
    exact (teardown_filed w .requested .disconnect).wp (h.keep rfl rfl rfl rfl rfl)
      fun _ _ _ h => h

/-- A connect from idle files from scratch: the log and the ghosts are emptied together, and the
session it creates is the one started last. -/
theorem connect_filed :
    Triple (fun c _ => c.Filed w.render ∧ c.Consistent) (connect w)
      (fun _ c _ => c.Filed w.render) := by
  rintro c s ⟨h, hc⟩
  by_cases hidle : c.view.connection = .idle
  · have hcan : c.state.canConnect = true := by
      simp [Controller.state, hidle, ConnectionState.canConnect]
    have hnone : c.session = none := (hc.agrees.none_iff).2 hidle
    simp only [connect, wp_bind, wp_get, hcan, Bool.not_true, Bool.false_eq_true, if_false,
      wp_modify, wp_modifyView, wp_setState, wp_lift]
    -- nothing is routed, set or live yet in the emptied log
    have hfresh : Filed w.render { c with
        started := c.started + 1, routed := [], statusChanges := [],
        view := { c.view with log := [], searchResult := none, lastEnd := none } } :=
      { lines := ⟨[], rfl, rfl, rfl⟩
        current := by simp
        latest := by simp [Controller.isLive, hnone] }
    split
    · exact (failConnect_filed w _).wp (hfresh.keep rfl rfl rfl rfl rfl) fun _ _ _ h => h
    · simp only [wp_bind, wp_modify, wp_modifyView, wp_publish, wp_await]
      -- the session created is the one just started
      refine { lines := hfresh.lines, current := hfresh.current, latest := fun id hid => ?_ }
      obtain rfl : (⟨c.started⟩ : SessionId) = id := by simpa [Controller.isLive] using hid
      rfl
  · rw [wp_connect_of_not_idle w hidle]
    exact h

theorem endedWhileConnecting_filed :
    Triple (fun c _ => c.Filed w.render) (endedWhileConnecting w)
      (fun _ c _ => c.Filed w.render) := by
  intro c s h
  simp only [endedWhileConnecting, wp_bind]
  refine (processPending_filed w).wp h fun _ _ _ h' => ?_
  simp only [wp_finish]
  exact h'.keep rfl rfl rfl rfl rfl

theorem resume_filed (wt : Waiting) (r : Except String Unit) :
    Triple (fun c _ => c.Filed w.render) (resume w wt r) (fun _ c _ => c.Filed w.render) := by
  intro c s h
  have h' : { c with waiting := none }.Filed w.render := h.keep rfl rfl rfl rfl rfl
  simp only [resume, wp_bind, wp_modify]
  rcases wt with id | id | ⟨id, reason, after⟩ <;> rcases r with e | ⟨⟩
  · simp only [wp_bind, wp_isLive]
    split
    · exact (failConnect_filed w _).wp h' fun _ _ _ h => h
    · exact (endedWhileConnecting_filed w).wp h' fun _ _ _ h => h
  · simp only [wp_bind, wp_isLive]
    split
    · simp only [wp_bind, wp_get, wp_await]
      exact h'.keep rfl rfl rfl rfl rfl
    · exact (endedWhileConnecting_filed w).wp h' fun _ _ _ h => h
  · simp only [wp_bind, wp_isLive]
    split
    · exact (failConnect_filed w _).wp h' fun _ _ _ h => h
    · exact (endedWhileConnecting_filed w).wp h' fun _ _ _ h => h
  · simp only [wp_bind]
    refine (processPending_filed w).wp h' fun _ _ _ h'' => ?_
    simp only [wp_finish]
    exact h''.keep rfl rfl rfl rfl rfl
  · simp only [wp_bind, wp_log]
    exact (releaseSession_filed w reason).wp (h'.write (.teardownFailed e) rfl rfl)
      fun _ _ _ h => (afterLeave_filed w after).wp h fun _ _ _ h => h
  · simp only [wp_bind]
    exact (releaseSession_filed w reason).wp h'
      fun _ _ _ h => (afterLeave_filed w after).wp h fun _ _ _ h => h

/-- A turn of waiting files what it writes: the event it dispatches, the operation it goes on
with, or the disconnect a request starts. -/
theorem turn_filed :
    Triple (fun c _ => c.Filed w.render) (turn w) (fun _ c _ => c.Filed w.render) := by
  intro c s h
  simp only [turn, wp_bind, wp_get]
  split
  · simpa using h
  rename_i wt hwt
  simp only [wp_bind, wp_lift, wp_forIn_enqueue]
  have hq : ∀ es : List Envelope, { c with inbox := es }.Filed w.render :=
    fun _ => h.keep rfl rfl rfl rfl rfl
  split
  · simp only [wp_bind]
    exact (resume_filed w wt _).wp (hq _) fun _ _ _ h => h
  simp only [wp_bind, wp_get]
  split
  · -- an event is queued: dispatch it, and stop a connect whose session it ended
    simp only [wp_bind, wp_modify]
    refine (dispatch_filed w _).wp (hq _) fun _ c' s' h' => ?_
    split
    · simp only [wp_bind, wp_isLive]
      split
      · simpa using h'
      · simp only [wp_bind, wp_modify]
        exact (endedWhileConnecting_filed w).wp (h'.keep rfl rfl rfl rfl rfl) fun _ _ _ h => h
    · simpa using h'
  -- nothing is queued: take a request
  simp only [wp_bind, wp_lift]
  split
  · simp only [wp_bind, wp_state, wp_lift, wp_pure]
    exact hq _
  · simp only [wp_bind, wp_modify]
    split
    · simp only [wp_bind, wp_modify]
      exact (disconnect_filed w).wp (h.keep rfl rfl rfl rfl rfl) fun _ _ _ h => h
    · simp only [wp_pure]
      exact h.keep rfl rfl rfl rfl rfl
  · simp only [wp_pure]
    exact hq _

theorem serveMove_filed (closed : σ → Bool) (a : Activity) :
    Triple (fun c _ => c.Filed w.render ∧ c.Consistent) (serveMove w closed a)
      (fun _ c _ => c.Filed w.render) :=
  serveMove_triple w closed a
    (fun _ _ _ e _ h _ => (dispatch_filed w e).wp (h.1.keep rfl rfl rfl rfl rfl) fun _ _ _ h => h)
    (fun _ _ _ h _ => h)
    (fun _ _ _ h => (connect_filed w).wp h fun res _ _ h' => proceed_keeps w _ _ res _ _ h')
    (fun _ _ _ h => (disconnect_filed w).wp h.1 fun res _ _ h' => proceed_keeps w _ _ res _ _ h')
    (fun _ _ h => h.1) (fun _ c s h => turn_filed w c s h.1)
    (complete_keeps w _ a) (fun _ _ _ _ h => h)

end Ctl

/-! ### Every run -/

namespace DirectRun

variable {σ : Type} {w : World σ}

theorem Reachable.filed {d : DirectRun σ} (hd : d.Reachable w) : d.controller.Filed w.render := by
  induction hd with
  | fresh settings s => exact filed_ofSettings _ settings
  | step hd hs ih =>
      cases hs with
      | connect _ =>
          exact @perform_of_wp _ _ _ _ _ (·.controller.Filed w.render)
            ((Ctl.connect_filed _).wp ⟨ih, hd.sound.consistent⟩ fun _ _ _ h => h)
      | disconnect _ =>
          exact @perform_of_wp _ _ _ _ _ (·.controller.Filed w.render)
            ((Ctl.disconnect_filed _).wp ih fun _ _ _ h => h)
      | process _ =>
          exact @perform_of_wp _ _ _ _ _ (·.controller.Filed w.render)
            ((Ctl.processPending_filed _).wp ih fun _ _ _ h => h)
      | turn _ =>
          exact @perform_of_wp _ _ _ _ _ (·.controller.Filed w.render)
            ((Ctl.turn_filed _).wp ih fun _ _ _ h => h)
      | event e => exact ih.enqueue e
      | world s => exact ih

end DirectRun

namespace ControllerTask

variable {σ : Type} {w : World σ} {closed : σ → Bool}

theorem Reachable.filed {t : ControllerTask σ} (ht : t.Reachable w closed) :
    t.controller.Filed w.render := by
  induction ht with
  | fresh settings s => exact filed_ofSettings _ settings
  | step ht hs ih =>
      cases hs with
      | move _ =>
          refine @move_of_wp σ w closed _ (fun t' => t'.controller.Filed w.render) ?_
          refine (Ctl.serveMove_filed _ _ _).wp ⟨ih, ht.sound.consistent⟩ fun m _ _ h => ?_
          cases m <;> exact h
      | event e _ => exact ih.enqueue e
      | world s => exact ih

end ControllerTask

/-- **The log's entries by category are what was routed and set.** Every line's text is inferred the
category of the place that wrote it; a dispatch writes its event's lines and routes the envelope
exactly when its session is live; and along every run the user, bot and status entries are the
final user transcripts and bot transcripts routed and the statuses set since the last connect. -/
theorem log_entries_follow_routing (σ : Type) (w : World σ) (closed : σ → Bool) :
    (∀ l : Line, LogCategory.infer l.text = l.category) ∧
    (∀ (v : View) (ls : List Line) (e : Envelope) (live : Bool),
      Ctl.Triple (fun c _ => c.Journal v ls ∧ c.isLive e.session = live) (Ctl.dispatch w e)
        (fun _ c _ => c.Journal v (ls ++ if live then e.event.lines w.render else []))) ∧
    (∀ (e : Envelope) (r : List Envelope) (live : Bool),
      Ctl.Triple (fun c _ => c.routed = r ∧ c.isLive e.session = live) (Ctl.dispatch w e)
        (fun _ c _ => c.routed = r ++ if live then [e] else [])) ∧
    (∀ d : DirectRun σ, d.Reachable w → d.controller.Transcribed) ∧
    (∀ t : ControllerTask σ, t.Reachable w closed → t.controller.Transcribed) :=
  ⟨Line.infer_text, fun _ _ e live => Ctl.dispatch_journal w e live,
    fun e r live => Ctl.dispatch_routed w e r live, fun _ hd => hd.filed.transcribed,
    fun _ ht => ht.filed.transcribed⟩

/-- A fresh direct run with scripted transports that connects shows by category what it routed
and set. -/
theorem log_transcribed_after_connect :
    ((DirectRun.fresh {} ({} : Scripted)).perform (Ctl.connect Scripted.world.recorded)
      Caller.ofOutcome).Reachable Scripted.world ∧
    ((DirectRun.fresh {} ({} : Scripted)).perform (Ctl.connect Scripted.world.recorded)
      Caller.ofOutcome).controller.Transcribed :=
  have hd := @DirectRun.reachable_fresh_connect _ Scripted.world {} ({} : Scripted)
  ⟨hd, (log_entries_follow_routing Scripted Scripted.world fun _ => false).2.2.2.1 _ hd⟩

end VoiceSession
