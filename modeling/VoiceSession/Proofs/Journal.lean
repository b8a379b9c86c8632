import VoiceSession.Proofs.DirectRuns
import VoiceSession.Proofs.Serving
/-!
# What the log records

`Line` names the places that write a log line and `Line.text` what each writes; the category
inferred from the text is always the place's own (`infer_text`). `Controller.Journal v ls` says an
operation appended the lines `ls` to the log of `v`, and every operation keeps one.
-/

namespace VoiceSession

open Json

/-- The places in the controller's code that write a log line, with what each line reports. -/
inductive Line where
  | userTranscript (text : String)
  | botTranscript (text : String)
  | status (status : String)
  | connectFailed (failure : Failure)
  | teardownFailed (reason : String)
  | messageError (data : String)
  | runtimeError (data : String)
  | botConnected (participant : Participant)
  | botDisconnected (participant : Participant)
  | botReady (data : String)
  | trackStopped (track : Track) (participant : Participant)

namespace Line

/-- The text a place writes. -/
def text : Line → String
  | .userTranscript t => "User: " ++ t
  | .botTranscript t => "Bot: " ++ t
  | .status s => "Status: " ++ s
  | .connectFailed f => "Error connecting: " ++ f.describe
  | .teardownFailed e => "Error during disconnect: " ++ (Failure.teardown (Cause.ofMessage e)).describe
  | .messageError data => "Error: " ++ (Failure.message data).describe
  | .runtimeError data => "Error: " ++ (Failure.runtime data).describe
  | .botConnected p => "Bot connected: " ++ p.display
  | .botDisconnected p => "Bot disconnected: " ++ p.display
  | .botReady data => "Bot ready: " ++ data
  | .trackStopped t p => "Track stopped: " ++ t.kind.title ++ " from " ++ p.display

/-- The category a place's line is meant to have: transcripts by speaker, status changes,
failures as errors, and the rest as information. -/
def category : Line → LogCategory
  | .userTranscript _ => .user
  | .botTranscript _ => .bot
  | .status _ => .status
  | .connectFailed _ | .teardownFailed _ | .messageError _ | .runtimeError _ => .error
  | .botConnected _ | .botDisconnected _ | .botReady _ | .trackStopped .. => .info

def entry (l : Line) : LogEntry := LogEntry.ofText l.text

def after (s : String) : Line → String
  | .status s' => s'
  | _ => s

def OfController : Line → Prop
  | .status _ | .connectFailed _ | .teardownFailed _ => True
  | _ => False

/-- Whatever it reports, a line's text gets the category of the place that wrote it: the fixed
openings of the places never begin with another category's opening. -/
theorem infer_text (l : Line) : LogCategory.infer l.text = l.category := by
  -- each case states its text, so that `simp` reads the opening off the literal
  cases l with
  | userTranscript t => show LogCategory.infer ("User: " ++ t) = .user; simp [LogCategory.infer]
  | botTranscript t => show LogCategory.infer ("Bot: " ++ t) = .bot; simp [LogCategory.infer]
  | status s => show LogCategory.infer ("Status: " ++ s) = .status; simp [LogCategory.infer]
  | connectFailed f =>
      show LogCategory.infer ("Error connecting: " ++ f.describe) = .error
      simp [LogCategory.infer]
  | teardownFailed e =>
      show LogCategory.infer ("Error during disconnect: " ++ _) = .error
      simp [LogCategory.infer]
  | messageError data => show LogCategory.infer ("Error: " ++ _) = .error; simp [LogCategory.infer]
  | runtimeError data => show LogCategory.infer ("Error: " ++ _) = .error; simp [LogCategory.infer]
  | botConnected p =>
      show LogCategory.infer ("Bot connected: " ++ p.display) = .info
      simp [LogCategory.infer]
  | botDisconnected p =>
      show LogCategory.infer ("Bot disconnected: " ++ p.display) = .info
      simp [LogCategory.infer]
  | botReady data => show LogCategory.infer ("Bot ready: " ++ data) = .info; simp [LogCategory.infer]
  | trackStopped t p =>
      show LogCategory.infer ("Track stopped: " ++ t.kind.title ++ " from " ++ p.display) = .info
      simp [LogCategory.infer]

@[simp] theorem entry_category (l : Line) : l.entry.category = l.category := infer_text l

@[simp] theorem entry_text (l : Line) : l.entry.text = l.text := rfl

theorem after_of_category {l : Line} (h : l.category ≠ .status) (s : String) : l.after s = s := by
  cases l <;> simp_all [category, after]

end Line

/-- The lines the routing of an event of the live session writes, in order, JSON data written
by `render`. -/
def Event.lines (render : Value → String) : Event → List Line
  | .connected => [.status "Connected"]
  | .disconnected => [.status "Disconnected"]
  | .transportStateChanged s => [.status ("Transport: " ++ s.name)]
  | .trackStarted .. | .searchResponse _ => []
  | .trackStopped t p => [.trackStopped t p]
  | .botConnected p => [.botConnected p]
  | .botDisconnected p => [.botDisconnected p]
  | .botReady data => [.botReady (render data)]
  | .userTranscript t => if t.isFinal then [.userTranscript t.text] else []
  | .botTranscript t => [.botTranscript t.text]
  | .messageError data => [.messageError (render data)]
  | .error data => [.runtimeError (render data)]

def Event.ends : Event → Bool
  | .disconnected => true
  | _ => false

def View.Offers (v : View) : Prop :=
  v.connectEnabled = v.connection.canConnect ∧ v.disconnectEnabled = v.connection.canDisconnect

namespace Controller

theorem Offers.view {c : Controller} (h : c.Offers) : c.view.Offers :=
  ⟨h.connectable, h.disconnectable⟩

def liveSession (c : Controller) : Option SessionId :=
  match c.session with
  | some a => if a.tombstoned then none else some a.id
  | none => none

theorem isLive_iff_liveSession {c : Controller} {id : SessionId} :
    c.isLive id = true ↔ c.liveSession = some id := by
  unfold isLive liveSession
  rcases c.session with _ | ⟨id', tomb⟩
  · simp
  · cases tomb <;> simp

/-- From the view `v`, the lines `ls` were appended to the log in order, the status is that of
the last status line among them (or `v`'s), and the view and its published snapshot offer the
actions their states allow. -/
structure Journal (v : View) (ls : List Line) (c : Controller) : Prop where
  log : c.view.log = v.log ++ ls.map Line.entry
  status : c.view.status = ls.foldl Line.after v.status
  offers : c.view.Offers
  shows : c.published.Offers

def Writes (P : Line → Prop) (v : View) (c : Controller) : Prop :=
  ∃ ls, (∀ l ∈ ls, P l) ∧ c.Journal v ls

section Journal

variable {c : Controller} {v : View} {ls : List Line}

theorem journal_self (ho : c.view.Offers) (hs : c.published.Offers) : c.Journal c.view [] :=
  ⟨by simp, rfl, ho, hs⟩

theorem Journal.writes {P : Line → Prop} (h : c.Journal v ls) (hP : ∀ l ∈ ls, P l) :
    c.Writes P v :=
  ⟨ls, hP, h⟩

theorem Writes.mono {P Q : Line → Prop} (h : c.Writes P v) (hPQ : ∀ l, P l → Q l) :
    c.Writes Q v := by
  obtain ⟨ls, hP, hj⟩ := h
  exact ⟨ls, fun l hl => hPQ l (hP l hl), hj⟩

theorem Journal.prefix (h : c.Journal v ls) : v.log <+: c.view.log := by
  rw [h.log]
  exact List.prefix_append _ _

theorem Journal.trans {c' : Controller} {ls' : List Line} (h : c.Journal v ls)
    (h' : c'.Journal c.view ls') : c'.Journal v (ls ++ ls') where
  log := by rw [h'.log, h.log, List.map_append, List.append_assoc]
  status := by rw [h'.status, h.status, List.foldl_append]
  offers := h'.offers
  shows := h'.shows

theorem Journal.write (h : c.Journal v ls) (l : Line) (hl : l.after c.view.status = c.view.status) :
    { c with view := { c.view with log := c.view.log ++ [LogEntry.ofText l.text] } }.Journal v
      (ls ++ [l]) where
  log := by simp [h.log, Line.entry]
  status := by simp only [List.foldl_append, List.foldl_cons, List.foldl_nil, ← h.status, hl]
  offers := h.offers
  shows := h.shows

theorem Journal.setStatus (h : c.Journal v ls) (s : String) :
    { c with view := { c.view with log := c.view.log ++ [LogEntry.ofText ("Status: " ++ s)],
                                   status := s }
             statusChanges := c.statusChanges ++ [s] }.Journal v (ls ++ [Line.status s]) where
  log := by rw [h.log, List.map_append, List.append_assoc]; rfl
  status := by simp [Line.after]
  offers := h.offers
  shows := h.shows

theorem Journal.setState (h : c.Journal v ls) (st : ConnectionState) :
    { c with
      view := { c.view with connection := st, connectEnabled := st.canConnect,
                            disconnectEnabled := st.canDisconnect }
      published := { c.view with connection := st, connectEnabled := st.canConnect,
                                 disconnectEnabled := st.canDisconnect }
      transitions := c.transitions ++ [(c.view.connection, st)] }.Journal v ls where
  log := h.log
  status := h.status
  offers := ⟨rfl, rfl⟩
  shows := ⟨rfl, rfl⟩

theorem Journal.publish (h : c.Journal v ls) : { c with published := c.view }.Journal v ls :=
  { h with shows := h.offers }

end Journal

end Controller

open Controller

namespace Ctl

variable {σ : Type} (w : World σ) {v : View} {ls : List Line}

theorem releaseSession_journal (reason : SessionEnd) :
    Triple (fun c _ => c.Journal v ls) (releaseSession w reason) (fun _ c _ => c.Journal v ls) := by
  intro c s h
  simp only [releaseSession, wp_bind, wp_modify, wp_useBinder, wp_modifyView, wp_setState,
    wp_notifyWaiters]
  exact { log := h.log, status := h.status, offers := ⟨rfl, rfl⟩, shows := ⟨rfl, rfl⟩ }

/-- Dispatching an event writes the lines of its kind when its session is live, and nothing
otherwise. -/
theorem dispatch_journal (e : Envelope) (live : Bool) :
    Triple (fun c _ => c.Journal v ls ∧ c.isLive e.session = live) (dispatch w e)
      (fun _ c _ => c.Journal v (ls ++ if live then e.event.lines w.render else [])) := by
  rintro c s ⟨h, rfl⟩
  simp only [dispatch, wp_bind, wp_isLive]
  cases c.isLive e.session
  · simpa using h
  obtain ⟨id, ev⟩ := e
  simp only [Bool.not_true, Bool.false_eq_true, if_false, if_true, wp_bind, wp_modify]
  -- recording the envelope as routed leaves the log alone
  replace h : { c with routed := c.routed ++ [(⟨id, ev⟩ : Envelope)] }.Journal v ls := { h with }
  cases ev with
  | connected =>
      simp only [wp_bind, wp_setState, wp_setStatus, wp_publish]
      exact ((h.setState .connected).setStatus "Connected").publish
  | disconnected =>
      simp only [wp_bind]
      refine (releaseSession_journal w .remote).wp h fun _ c s h => ?_
      simp only [wp_bind, wp_setStatus, wp_publish]
      exact (h.setStatus "Disconnected").publish
  | transportStateChanged st =>
      simp only [wp_bind, wp_modifyView, wp_setStatus]
      have h' := (show Journal v ls { c with
          routed := c.routed ++ [(⟨id, .transportStateChanged st⟩ : Envelope)],
          view := { c.view with transportState := some st } }
        from { h with }).setStatus ("Transport: " ++ st.name)
      split
      · simp only [wp_bind, wp_reconcileTracks, wp_publish]
        exact { h' with shows := h'.offers }
      · simp only [wp_publish]
        exact h'.publish
  | trackStarted t p =>
      simp only [Event.lines, List.append_nil]
      split
      · simp only [wp_bind, wp_useBinder, wp_publish]
        exact { h with shows := h.offers }
      · exact h.publish
  | trackStopped t p => exact (h.write (.trackStopped t p) rfl).publish
  | botConnected p => exact (h.write (.botConnected p) rfl).publish
  | botDisconnected p => exact (h.write (.botDisconnected p) rfl).publish
  | botReady data =>
      simp only [wp_bind, wp_log, wp_reconcileTracks, wp_publish]
      exact { h.write (.botReady (w.render data)) rfl with
              shows := (h.write (.botReady (w.render data)) rfl).offers }
  | userTranscript t =>
      simp only [Event.lines]
      split
      · simp only [wp_bind, wp_log, wp_publish]
        exact (h.write (.userTranscript t.text) rfl).publish
      · simpa using h.publish
  | botTranscript t => exact (h.write (.botTranscript t.text) rfl).publish
  | searchResponse r =>
      simp only [Event.lines, List.append_nil, wp_bind, wp_modifyView, wp_publish]
      exact { h with shows := h.offers }
  | messageError data => exact (h.write (.messageError (w.render data)) rfl).publish
  | error data => exact (h.write (.runtimeError (w.render data)) rfl).publish

/-- A dispatch keeps the live session, but for the `disconnected` event of the live session,
which ends it. -/
theorem dispatch_liveSession (e : Envelope) (live : Option SessionId) :
    Triple (fun c _ => c.liveSession = live) (dispatch w e)
      (fun _ c _ => c.liveSession = if live = some e.session ∧ e.event.ends then none else live) := by
  rintro c s rfl
  by_cases hlive : c.isLive e.session = true
  · have hl := isLive_iff_liveSession.1 hlive
    obtain ⟨id, ev⟩ := e
    simp only [dispatch, wp_bind, wp_isLive, hlive, Bool.not_true, Bool.false_eq_true, if_false,
      wp_modify]
    cases ev
    case disconnected =>
      simp only [releaseSession, wp_bind, wp_modify, wp_useBinder, wp_modifyView, wp_setState,
        wp_notifyWaiters, wp_setStatus, wp_publish]
      rw [hl]
      simp [liveSession, Event.ends]
    -- every other event leaves the session slot alone
    all_goals
      simp only [wp_bind, wp_setState, wp_setStatus, wp_modifyView, wp_publish, wp_log, wp_useBinder,
        wp_reconcileTracks, wp_ite]
      simp [liveSession, Event.ends]
  · rw [wp_dispatch_of_not_live w (by simpa using hlive)]
    have hne : ¬c.liveSession = some e.session := fun h => hlive (isLive_iff_liveSession.2 h)
    simp [hne]

end Ctl

/-- The lines a queue writes when its events are dispatched one after another, `live` being the
live session: an event of another session writes nothing, and once the live session's
`disconnected` event is routed no session is live. -/
def routeLines (render : Value → String) : Option SessionId → List Envelope → List Line
  | _, [] => []
  | live, e :: es =>
    if live = some e.session then
      e.event.lines render ++ routeLines render (if e.event.ends then none else live) es
    else routeLines render live es

@[simp] theorem routeLines_none (render : Value → String) (es : List Envelope) :
    routeLines render none es = [] := by
  induction es with
  | nil => rfl
  | cons e es ih => simp [routeLines, ih]

namespace Ctl

variable {σ : Type} (w : World σ) {v : View} {ls : List Line}

/-- Dispatching events one after another writes the lines of those of the live session, in
order, up to its end. -/
theorem forIn_dispatch_journal (es : List Envelope) (live : Option SessionId) :
    Triple (fun c _ => c.Journal v ls ∧ c.liveSession = live)
      (forIn es PUnit.unit fun e _ => do dispatch w e; pure (ForInStep.yield PUnit.unit))
      (fun _ c _ => c.Journal v (ls ++ routeLines w.render live es)) := by
  induction es generalizing ls live with
  | nil => exact fun c s h => by simpa [routeLines] using h.1
  | cons e es ih =>
      rintro c s ⟨h, hlive⟩
      simp only [List.forIn_cons, wp_bind]
      have hb : c.isLive e.session = decide (live = some e.session) := by
        rw [← hlive]
        cases hc : c.isLive e.session
        · exact (decide_eq_false fun h => by simp [isLive_iff_liveSession.2 h] at hc).symm
        · exact (decide_eq_true (isLive_iff_liveSession.1 hc)).symm
      refine ((dispatch_journal w e _).and (dispatch_liveSession w e live)).wp ⟨⟨h, hb⟩, hlive⟩ ?_
      rintro _ c' s' ⟨h', hlive'⟩
      simp only [wp_pure]
      refine (ih _).wp ⟨h', hlive'⟩ fun _ _ _ h'' => ?_
      by_cases hl : live = some e.session
      · simpa [routeLines, hl] using h''
      · simpa [routeLines, hl] using h''

/-- Dispatching the queue writes the lines of its events of the live session, in the order they
were queued, up to the live session's end. -/
theorem processPending_journal (c₀ : Controller) :
    Triple (fun c _ => c.Journal v ls ∧ c = c₀) (processPending w)
      (fun _ c _ => c.Journal v (ls ++ routeLines w.render c₀.liveSession c₀.inbox)) := by
  rintro c s ⟨h, rfl⟩
  simp only [processPending, wp_bind, wp_get, wp_modify]
  exact (forIn_dispatch_journal w c.inbox c.liveSession).wp ⟨{ h with }, rfl⟩ fun _ _ _ h => h

theorem processPending_quiet :
    Triple (fun c _ => c.Journal v ls ∧ c.session = none) (processPending w)
      (fun _ c _ => c.Journal v ls) := by
  rintro c s ⟨h, hs⟩
  refine (processPending_journal w c).wp ⟨h, rfl⟩ fun _ _ _ h' => ?_
  have hnone : c.liveSession = none := by simp [liveSession, hs]
  simpa [hnone] using h'

end Ctl

namespace Controller

section Writes

variable {P : Line → Prop} {c : Controller} {v : View}

theorem Writes.offers (h : c.Writes P v) : c.view.Offers := by
  obtain ⟨_, _, hj⟩ := h
  exact hj.offers

theorem Writes.shows (h : c.Writes P v) : c.published.Offers := by
  obtain ⟨_, _, hj⟩ := h
  exact hj.shows

theorem Writes.congr {c' : Controller} (h : c.Writes P v) (hlog : c'.view.log = c.view.log)
    (hst : c'.view.status = c.view.status) (ho : c'.view.Offers) (hs : c'.published.Offers) :
    c'.Writes P v := by
  obtain ⟨ls, hP, hj⟩ := h
  exact ⟨ls, hP, ⟨hlog.trans hj.log, hst.trans hj.status, ho, hs⟩⟩

theorem Writes.write (h : c.Writes P v) (l : Line) (hl : P l)
    (ha : l.after c.view.status = c.view.status) :
    { c with view := { c.view with log := c.view.log ++ [LogEntry.ofText l.text] } }.Writes P v := by
  obtain ⟨ls, hP, hj⟩ := h
  exact ⟨ls ++ [l], by simpa [or_imp, forall_and] using ⟨hP, hl⟩, hj.write l ha⟩

theorem Writes.setStatus (h : c.Writes P v) (st : String) (hl : P (.status st)) :
    { c with view := { c.view with log := c.view.log ++ [LogEntry.ofText ("Status: " ++ st)],
                                   status := st }
             statusChanges := c.statusChanges ++ [st] }.Writes P v := by
  obtain ⟨ls, hP, hj⟩ := h
  exact ⟨ls ++ [.status st], by simpa [or_imp, forall_and] using ⟨hP, hl⟩, hj.setStatus st⟩

theorem Writes.setState (h : c.Writes P v) (st : ConnectionState) :
    { c with
      view := { c.view with connection := st, connectEnabled := st.canConnect,
                            disconnectEnabled := st.canDisconnect }
      published := { c.view with connection := st, connectEnabled := st.canConnect,
                                 disconnectEnabled := st.canDisconnect }
      transitions := c.transitions ++ [(c.view.connection, st)] }.Writes P v := by
  obtain ⟨ls, hP, hj⟩ := h
  exact ⟨ls, hP, hj.setState st⟩

theorem Writes.publish (h : c.Writes P v) : { c with published := c.view }.Writes P v :=
  h.congr rfl rfl h.offers h.offers

end Writes

end Controller

namespace Ctl

variable {σ : Type} (w : World σ) {v : View}

/-! ### The controller's own lines

A connect, a disconnect and a teardown write only lines of their own: status changes, a failed
connect and a failed teardown. Whatever they dispatch, they dispatch with no session left, so it
writes nothing. -/

section OwnLines

variable {P : Line → Prop} (hP : ∀ l, l.OfController → P l)

theorem releaseSession_writes (reason : SessionEnd) :
    Triple (fun c _ => c.Writes P v) (releaseSession w reason)
      (fun _ c _ => c.Writes P v ∧ c.session = none) := by
  rintro c s ⟨ls, hl, h⟩
  have hs : wp (releaseSession w reason) (fun _ c _ => c.session = none) c s := by
    simp only [releaseSession, wp_bind, wp_modify, wp_useBinder, wp_modifyView, wp_setState,
      wp_notifyWaiters]
  refine wp_mono ?_ (wp_and (releaseSession_journal w reason c s h) hs)
  rintro _ _ _ ⟨hj, hs⟩
  exact ⟨⟨ls, hl, hj⟩, hs⟩

include hP in
theorem afterLeave_writes (after : AfterLeave) :
    Triple (fun c _ => c.Writes P v ∧ c.session = none) (afterLeave w after)
      (fun _ c _ => c.Writes P v) := by
  rintro c s ⟨⟨ls, hl, h⟩, hs⟩
  cases after with
  | disconnect =>
      simp only [afterLeave, wp_bind, wp_setStatus]
      refine (processPending_quiet w).wp ⟨h.setStatus "Disconnected", hs⟩ fun _ c s h' => ?_
      simp only [wp_bind, wp_publish, wp_finish]
      refine ⟨ls ++ [.status "Disconnected"], ?_, { h'.publish with }⟩
      simpa [or_imp, forall_and] using ⟨hl, hP _ trivial⟩
  | failedConnect =>
      simp only [afterLeave, wp_bind]
      exact (processPending_quiet w).wp ⟨h, hs⟩ fun _ c s h' => ⟨ls, hl, { h' with }⟩

include hP in
theorem teardown_writes (reason : SessionEnd) (after : AfterLeave) :
    Triple (fun c _ => c.Writes P v) (teardown w reason after) (fun _ c _ => c.Writes P v) := by
  intro c s h
  simp only [teardown, wp_bind, wp_get]
  cases c.session with
  | none =>
      simp only [wp_bind]
      exact (releaseSession_writes w reason).wp h fun _ _ _ h' =>
        (afterLeave_writes w hP after).wp h' fun _ _ _ h'' => h''
  | some a =>
      simp only [wp_bind, wp_modify, wp_await]
      exact h.congr rfl rfl h.offers h.shows

include hP in
theorem failConnect_writes (f : Failure) :
    Triple (fun c _ => c.Writes P v) (failConnect w f) (fun _ c _ => c.Writes P v) := by
  intro c s h
  simp only [failConnect, wp_bind, wp_log, wp_setState, wp_setStatus]
  exact (teardown_writes w hP .connectFailed .failedConnect).wp
    (((h.write (.connectFailed f) (hP _ trivial) rfl).setState .error).setStatus "Error"
      (hP _ trivial)) fun _ _ _ h => h

include hP in
theorem disconnect_writes :
    Triple (fun c _ => c.Writes P v) (disconnect w) (fun _ c _ => c.Writes P v) := by
  intro c s h
  simp only [disconnect, wp_bind, wp_get]
  split
  · simp only [wp_bind, wp_notifyWaiters, wp_finish]
    exact h.congr rfl rfl h.offers h.shows
  · simp only [wp_bind, wp_setState]
    exact (teardown_writes w hP .requested .disconnect).wp (h.setState _) fun _ _ _ h => h

theorem connect_writes_of_not_idle :
    Triple (fun c _ => c.Writes P v ∧ c.view.connection ≠ .idle) (connect w)
      (fun _ c _ => c.Writes P v) := by
  rintro c s ⟨h, hidle⟩
  rw [wp_connect_of_not_idle w hidle]
  exact h

include hP in
theorem connect_writes_of_idle (v₀ : View) :
    Triple (fun c _ => c.view = v₀ ∧ v₀.connection = .idle ∧ v₀.Offers ∧ c.published.Offers)
      (connect w) (fun _ c _ => c.Writes P { v₀ with log := [] }) := by
  rintro c s ⟨rfl, hidle, -, -⟩
  have hcan : c.state.canConnect = true := by
    simp [Controller.state, hidle, ConnectionState.canConnect]
  simp only [connect, wp_bind, wp_get, hcan, Bool.not_true, Bool.false_eq_true, if_false,
    wp_modify, wp_modifyView, wp_setState, wp_lift]
  -- the log is empty and the status is the one it had: the journal starts here
  split
  · refine (@failConnect_writes _ w { c.view with log := [] } _ hP _).wp
      ⟨[], by simp, ⟨rfl, rfl, ⟨rfl, rfl⟩, ⟨rfl, rfl⟩⟩⟩ fun _ _ _ h => h
  · simp only [wp_bind, wp_modify, wp_modifyView, wp_publish, wp_await]
    exact ⟨[], by simp, ⟨rfl, rfl, ⟨rfl, rfl⟩, ⟨rfl, rfl⟩⟩⟩

end OwnLines

/-! ### Operations that route events -/

theorem dispatch_writes (e : Envelope) :
    Triple (fun c _ => c.Writes (fun _ => True) v) (dispatch w e)
      (fun _ c _ => c.Writes (fun _ => True) v) := by
  rintro c s ⟨ls, -, h⟩
  exact (dispatch_journal w e _).wp ⟨h, rfl⟩ fun _ _ _ h' => ⟨_, fun _ _ => trivial, h'⟩

theorem processPending_writes :
    Triple (fun c _ => c.Writes (fun _ => True) v) (processPending w)
      (fun _ c _ => c.Writes (fun _ => True) v) := by
  rintro c s ⟨ls, -, h⟩
  exact (processPending_journal w c).wp ⟨h, rfl⟩ fun _ _ _ h' => ⟨_, fun _ _ => trivial, h'⟩

theorem endedWhileConnecting_writes :
    Triple (fun c _ => c.Writes (fun _ => True) v) (endedWhileConnecting w)
      (fun _ c _ => c.Writes (fun _ => True) v) := by
  intro c s h
  simp only [endedWhileConnecting, wp_bind]
  refine (processPending_writes w).wp h fun _ _ _ h' => ?_
  simp only [wp_finish]
  exact h'.congr rfl rfl h'.offers h'.shows

theorem resume_writes (wt : Waiting) (r : Except String Unit) :
    Triple (fun c _ => c.Writes (fun _ => True) v) (resume w wt r)
      (fun _ c _ => c.Writes (fun _ => True) v) := by
  intro c s h
  have hall : ∀ l : Line, l.OfController → True := fun _ _ => trivial
  have h' : { c with waiting := none }.Writes (fun _ => True) v := h.congr rfl rfl h.offers h.shows
  simp only [resume, wp_bind, wp_modify]
  rcases wt with id | id | ⟨id, reason, after⟩ <;> rcases r with e | ⟨⟩
  · simp only [wp_bind, wp_isLive]
    split
    · exact (failConnect_writes w hall _).wp h' fun _ _ _ h => h
    · exact (endedWhileConnecting_writes w).wp h' fun _ _ _ h => h
  · simp only [wp_bind, wp_isLive]
    split
    · simp only [wp_bind, wp_get, wp_await]
      exact h'.congr rfl rfl h'.offers h'.shows
    · exact (endedWhileConnecting_writes w).wp h' fun _ _ _ h => h
  · simp only [wp_bind, wp_isLive]
    split
    · exact (failConnect_writes w hall _).wp h' fun _ _ _ h => h
    · exact (endedWhileConnecting_writes w).wp h' fun _ _ _ h => h
  · simp only [wp_bind]
    refine (processPending_writes w).wp h' fun _ _ _ h'' => ?_
    simp only [wp_finish]
    exact h''.congr rfl rfl h''.offers h''.shows
  · simp only [wp_bind, wp_log]
    exact (releaseSession_writes w reason).wp (h'.write (.teardownFailed e) trivial rfl)
      fun _ _ _ h => (afterLeave_writes w hall after).wp h fun _ _ _ h => h
  · simp only [wp_bind]
    exact (releaseSession_writes w reason).wp h'
      fun _ _ _ h => (afterLeave_writes w hall after).wp h fun _ _ _ h => h

/-- A turn of waiting writes lines of the code's places only: those of the event it dispatches,
of the operation it goes on with, or of the disconnect a request starts. -/
theorem turn_writes :
    Triple (fun c _ => c.Writes (fun _ => True) v) (turn w)
      (fun _ c _ => c.Writes (fun _ => True) v) := by
  intro c s h
  have hall : ∀ l : Line, l.OfController → True := fun _ _ => trivial
  simp only [turn, wp_bind, wp_get]
  split
  · simpa using h
  rename_i wt hwt
  simp only [wp_bind, wp_lift, wp_forIn_enqueue]
  split
  · simp only [wp_bind]
    exact (resume_writes w wt _).wp (h.congr rfl rfl h.offers h.shows) fun _ _ _ h => h
  simp only [wp_bind, wp_get]
  split
  · -- an event is queued: dispatch it, and stop a connect whose session it ended
    simp only [wp_bind, wp_modify]
    refine (dispatch_writes w _).wp (h.congr rfl rfl h.offers h.shows) fun _ c' s' h' => ?_
    split
    · simp only [wp_bind, wp_isLive]
      split
      · simpa using h'
      · simp only [wp_bind, wp_modify]
        exact (endedWhileConnecting_writes w).wp (h'.congr rfl rfl h'.offers h'.shows)
          fun _ _ _ h => h
    · simpa using h'
  -- nothing is queued: take a request
  simp only [wp_bind, wp_lift]
  split
  · simp only [wp_bind, wp_state, wp_lift, wp_pure]
    exact h.congr rfl rfl h.offers h.shows
  · simp only [wp_bind, wp_modify]
    split
    · simp only [wp_bind, wp_modify]
      exact (disconnect_writes w hall).wp (h.congr rfl rfl h.offers h.shows) fun _ _ _ h => h
    · simp only [wp_pure]
      exact h.congr rfl rfl h.offers h.shows
  · simp only [wp_pure]
    exact h.congr rfl rfl h.offers h.shows

end Ctl

end VoiceSession
