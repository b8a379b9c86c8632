import VoiceSession.Proofs.Journal
import VoiceSession.Host.Spawned
/-!
# What an agent message can change

A session's sender turns each payload, with whatever decoder it is given, into one queued event
(`Event.ofPayload`). Dispatched for the live session, it changes only the log (one line at most),
the search result, the snapshot and the binder; an undecodable payload writes one error line.
-/

namespace VoiceSession

open Controller

namespace Event

theorem length_lines_ofMessage_le (render : Json.Value → String) (m : AgentMessage) :
    ((ofMessage m).lines render).length ≤ 1 := by
  cases m with
  | userTranscription t =>
      simp only [ofMessage, lines]
      split <;> simp
  | _ => simp [ofMessage, lines]

/-- What a sender queues in place of a payload that does not decode: the refusal's text and the
payload read as text. -/
def refusal (payload : List UInt8) (e : String) : Json.Value :=
  .object [("error", .string (Failure.message e).describe),
    ("payload", .string (Text.Utf8.decodeLossy payload))]

variable {decode : List UInt8 → Except String AgentMessage} {p : List UInt8}

theorem ofPayload_of_ok {m : AgentMessage} (h : decode p = .ok m) :
    ofPayload decode p = ofMessage m := by
  simp [ofPayload, h]

theorem ofPayload_of_error {e : String} (h : decode p = .error e) :
    ofPayload decode p = .messageError (refusal p e) := by
  simp [ofPayload, h, refusal]

end Event

/-- What routing the event of `m` for the live session `id` may do: change the controller only in its
log (by the message's lines), search result, binder and snapshot, and the world only by a ready
bot's reconcile. -/
structure MessageRouted {σ : Type} (w : World σ) (id : SessionId) (m : AgentMessage)
    (c : Controller) (s : σ) (c' : Controller) (s' : σ) : Prop where
  frame : c' = { c with view := { c.view with log := c'.view.log, searchResult := c'.view.searchResult },
                        published := c'.view, binder := c'.binder,
                        routed := c.routed ++ [⟨id, .ofMessage m⟩] }
  log : c'.view.log = c.view.log ++ ((Event.ofMessage m).lines w.render).map Line.entry
  search : c'.view.searchResult = c.view.searchResult ∨
    ∃ r, m = .searchResponse r ∧ c'.view.searchResult = some (.ofResponse r)
  binder : c'.binder = c.binder ∧ s' = s ∨
    ∃ v, m = .botReady v ∧ c'.binder = (c.binder.reconcile ((w.tracks id).run s).1).binder

namespace Ctl

variable {σ : Type} (w : World σ) {c : Controller} {s : σ} {id : SessionId}

/-- A message error of the live session is logged as an error and published, and nothing else
happens. -/
theorem wp_dispatch_messageError (d : Json.Value) (hlive : c.isLive id = true)
    {Q : Unit → Controller → σ → Prop} :
    wp (dispatch w ⟨id, .messageError d⟩) Q c s =
      Q () { c with
        view := { c.view with log := c.view.log ++ [(Line.messageError (w.render d)).entry] },
        published := { c.view with log := c.view.log ++ [(Line.messageError (w.render d)).entry] },
        routed := c.routed ++ [⟨id, .messageError d⟩] } s := by
  simp only [dispatch, wp_bind, wp_isLive, hlive, Bool.not_true, Bool.false_eq_true, if_false,
    wp_modify, wp_log, wp_publish]
  rfl

/-- Dispatching the event of an agent message for the live session does only what `MessageRouted`
allows. -/
theorem dispatch_ofMessage (m : AgentMessage) (hlive : c.isLive id = true) :
    wp (dispatch w ⟨id, .ofMessage m⟩) (fun _ c' s' => MessageRouted w id m c s c' s') c s := by
  simp only [dispatch, wp_bind, wp_isLive, hlive, Bool.not_true, Bool.false_eq_true, if_false,
    wp_modify]
  cases m with
  | botReady v =>
      simp only [Event.ofMessage, wp_bind, wp_log, wp_reconcileTracks, wp_publish]
      exact ⟨rfl, rfl, .inl rfl, .inr ⟨v, rfl, rfl⟩⟩
  | userTranscription t =>
      simp only [Event.ofMessage]
      -- an interim transcript is not logged
      by_cases hfinal : t.isFinal = true
      · simp only [hfinal, if_true, wp_bind, wp_log, wp_publish]
        have hlines : (Event.ofMessage (.userTranscription t)).lines w.render =
            [.userTranscript t.text] := by
          simp [Event.ofMessage, Event.lines, hfinal]
        exact ⟨rfl, by rw [hlines]; rfl, .inl rfl, .inl ⟨rfl, rfl⟩⟩
      · simp only [hfinal, Bool.false_eq_true, if_false, wp_publish]
        exact ⟨rfl, by simp [Event.ofMessage, Event.lines, hfinal], .inl rfl, .inl ⟨rfl, rfl⟩⟩
  | botTranscription t =>
      simp only [Event.ofMessage, wp_bind, wp_log, wp_publish]
      exact ⟨rfl, rfl, .inl rfl, .inl ⟨rfl, rfl⟩⟩
  | searchResponse r =>
      simp only [Event.ofMessage, wp_bind, wp_modifyView, wp_publish]
      exact ⟨rfl, by simp [Event.ofMessage, Event.lines], .inr ⟨r, rfl, rfl⟩, .inl ⟨rfl, rfl⟩⟩
  -- an error reply is routed as a message error, an error notification as a runtime error
  | errorResponse v =>
      simp only [Event.ofMessage, wp_bind, wp_log, wp_publish]
      exact ⟨rfl, rfl, .inl rfl, .inl ⟨rfl, rfl⟩⟩
  | error v =>
      simp only [Event.ofMessage, wp_bind, wp_log, wp_publish]
      exact ⟨rfl, rfl, .inl rfl, .inl ⟨rfl, rfl⟩⟩

/-- Dispatching the event of a raw payload for the live session: a payload that decodes is routed
as its message, and one that does not has its refusal logged as an error line and published, with
nothing else changed. -/
theorem dispatch_ofPayload (decode : List UInt8 → Except String AgentMessage) (p : List UInt8)
    (hlive : c.isLive id = true) :
    wp (dispatch w ⟨id, .ofPayload decode p⟩) (fun _ c' s' =>
      (∀ m, decode p = .ok m → MessageRouted w id m c s c' s') ∧
      (∀ e, decode p = .error e →
        c' = { c with
          view := { c.view with
            log := c.view.log ++ [(Line.messageError (w.render (Event.refusal p e))).entry] },
          published := { c.view with
            log := c.view.log ++ [(Line.messageError (w.render (Event.refusal p e))).entry] },
          routed := c.routed ++ [⟨id, .messageError (Event.refusal p e)⟩] } ∧
        s' = s)) c s := by
  cases hdec : decode p with
  | ok m =>
      rw [Event.ofPayload_of_ok hdec]
      refine wp_mono (fun _ _ _ hr => ⟨fun m' hm' => ?_, fun e he => (by cases he)⟩)
        (dispatch_ofMessage w m hlive)
      cases hm'
      exact hr
  | error e =>
      rw [Event.ofPayload_of_error hdec, wp_dispatch_messageError w _ hlive]
      refine ⟨fun m hm => (by cases hm), fun e' he' => ?_⟩
      cases he'
      exact ⟨rfl, rfl⟩

end Ctl

/-- **What an agent message can change.** For every decoder and payload, a sender queues exactly one
envelope; dispatched for the live session it changes only the log (one entry at most), the search
result (only for a search response), the binder (only for a ready bot) and the snapshot; an
undecodable payload appends one error entry and changes nothing else. -/
theorem agent_message_effects (σ : Type) (w : World σ)
    (decode : List UInt8 → Except String AgentMessage) (p : List UInt8) (id : SessionId) :
    (∀ b : Bench, (b.step (.emit id (Event.ofPayload decode p))).2.controller =
      { b.controller with inbox := b.controller.inbox ++ [⟨id, Event.ofPayload decode p⟩] }) ∧
    (∀ (rt : Runtime) (c : Controller), rt.controller = some c →
      (rt.perform (.emit id (Event.ofPayload decode p))).1 = .flag true ∧
      (rt.perform (.emit id (Event.ofPayload decode p))).2.controller =
        some { c with inbox := c.inbox ++ [⟨id, Event.ofPayload decode p⟩] }) ∧
    (∀ (c : Controller) (s : σ), c.isLive id = true →
      Ctl.wp (Ctl.dispatch w ⟨id, Event.ofPayload decode p⟩) (fun _ c' s' =>
        c' = { c with view := { c.view with log := c'.view.log, searchResult := c'.view.searchResult },
                      published := c'.view, binder := c'.binder,
                      routed := c.routed ++ [⟨id, Event.ofPayload decode p⟩] } ∧
        (∃ new, c'.view.log = c.view.log ++ new ∧ new.length ≤ 1) ∧
        (c'.view.searchResult = c.view.searchResult ∨
          ∃ r, decode p = .ok (.searchResponse r) ∧ c'.view.searchResult = some (.ofResponse r)) ∧
        (c'.binder = c.binder ∨
          ∃ v, decode p = .ok (.botReady v) ∧
            c'.binder = (c.binder.reconcile ((w.tracks id).run s).1).binder) ∧
        (∀ e, decode p = .error e → ∃ entry : LogEntry, entry.category = .error ∧
          c' = { c with view := { c.view with log := c.view.log ++ [entry] },
                        published := { c.view with log := c.view.log ++ [entry] },
                        routed := c.routed ++ [⟨id, Event.ofPayload decode p⟩] } ∧ s' = s))
        c s) := by
  refine ⟨fun b => rfl, fun rt c hc => ?_, fun c s hlive => ?_⟩
  · simp [Runtime.perform, Runtime.emit, hc, Controller.enqueue, Runtime.onHost]
  refine Ctl.wp_mono ?_ (Ctl.dispatch_ofPayload w decode p hlive)
  rintro _ c' s' ⟨hok, herr⟩
  cases hdec : decode p with
  | ok m =>
      have hr := hok m hdec
      refine ⟨by rw [Event.ofPayload_of_ok hdec]; exact hr.frame,
        ⟨_, hr.log, by simpa using Event.length_lines_ofMessage_le w.render m⟩, ?_, ?_,
        fun e he => (by cases he)⟩
      · rcases hr.search with h | ⟨r, rfl, h⟩
        · exact .inl h
        · exact .inr ⟨r, rfl, h⟩
      · rcases hr.binder with ⟨h, -⟩ | ⟨v, rfl, h⟩
        · exact .inl h
        · exact .inr ⟨v, rfl, h⟩
  | error e =>
      obtain ⟨rfl, rfl⟩ := herr e hdec
      rw [Event.ofPayload_of_error hdec]
      refine ⟨rfl, ⟨_, rfl, by simp⟩, .inl rfl, .inl rfl, fun e' he' => ?_⟩
      cases he'
      exact ⟨_, Line.entry_category _, rfl, rfl⟩

/-- After a first connect on the bench the session is live: the event of the payload `x`, which
the JSON library refuses, queued on a running controller holding that state and dispatched,
keeps its lifecycle state and its session. -/
theorem agent_message_keeps_session_after_connect :
    ((Bench.mk (.ofSettings {}) {}).step .connect).2.controller.isLive ⟨0⟩ = true ∧
    (Runtime.perform ⟨{}, some ((Bench.mk (.ofSettings {}) {}).step .connect).2.controller,
        .listening, {}, true⟩
      (.emit ⟨0⟩ (Event.ofPayload (fun _ => .error "expected value at line 1 column 1") [0x78]))).1 =
      .flag true ∧
    Ctl.wp (Ctl.dispatch Scripted.world
        ⟨⟨0⟩, Event.ofPayload (fun _ => .error "expected value at line 1 column 1") [0x78]⟩)
      (fun _ c' _ =>
        c'.view.connection = ((Bench.mk (.ofSettings {}) {}).step .connect).2.controller.view.connection ∧
        c'.session = ((Bench.mk (.ofSettings {}) {}).step .connect).2.controller.session)
      ((Bench.mk (.ofSettings {}) {}).step .connect).2.controller {} :=
  have hlive : ((Bench.mk (.ofSettings {}) {}).step .connect).2.controller.isLive ⟨0⟩ = true := by
    decide +kernel
  have h := agent_message_effects Scripted Scripted.world
    (fun _ => .error "expected value at line 1 column 1") [0x78] ⟨0⟩
  ⟨hlive, (h.2.1 _ _ rfl).1, Ctl.wp_mono (fun _ _ _ hc => by rw [hc.1]; exact ⟨rfl, rfl⟩) (h.2.2 _ {} hlive)⟩

end VoiceSession
