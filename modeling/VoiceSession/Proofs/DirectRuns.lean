import Mathlib.Logic.Relation
import VoiceSession.Proofs.Requests
import VoiceSession.Host.Direct
/-!
# Direct runs

`DirectRun` follows a directly driven controller one turn at a time in a recorded world, with
events queued and the world changed at any moment. `Sound` holds at every point of it, and
`await?_steps` ties the runs to the way the direct host awaits an operation.
-/

namespace VoiceSession

open Controller

/-- Where the caller of a directly driven controller is. -/
inductive Caller where
  | free
  | awaiting
  | hung
  deriving DecidableEq

namespace Caller

def ofOutcome : Option ConnectionState → Caller
  | some _ => .free
  | none => .awaiting

/-- Where a turn leaves the caller: free once the operation is over, hung when nothing will go
on, and awaiting otherwise. -/
def ofTurn : Ctl.Turn → Caller
  | .finished _ => .free
  | .continues => .awaiting
  | .blocked true => .awaiting
  | .blocked false => .hung

end Caller

/-- A directly driven controller in a world whose contacts are recorded: the controller, the
world's own state, the trace of contacts so far, and where its caller is. -/
structure DirectRun (σ : Type) where
  controller : Controller
  world : σ
  trace : List Contact
  caller : Caller

namespace DirectRun

variable {σ : Type}

def fresh (settings : ControllerSettings) (s : σ) : DirectRun σ :=
  ⟨.ofSettings settings, s, [], .free⟩

def perform {α : Type} (d : DirectRun σ) (act : Ctl (σ × List Contact) α) (next : α → Caller) :
    DirectRun σ :=
  let r := (act.run d.controller).run (d.world, d.trace)
  ⟨r.1.2, r.2.1, r.2.2, next r.1.1⟩

theorem perform_of_wp {α : Type} {d : DirectRun σ} {act : Ctl (σ × List Contact) α}
    {next : α → Caller} {P : DirectRun σ → Prop}
    (h : Ctl.wp act (fun a c p => P ⟨c, p.1, p.2, next a⟩) d.controller (d.world, d.trace)) :
    P (d.perform act next) := h

variable (w : World σ)

/-- The steps of a direct run in the recorded world `w`: a free caller starts a connect or a
disconnect or dispatches what is queued, an awaiting caller takes a turn, and at any moment an
event is queued or the world's own state changes. -/
inductive Step : DirectRun σ → DirectRun σ → Prop
  | connect {d : DirectRun σ} : d.caller = .free →
      Step d (d.perform (Ctl.connect w.recorded) Caller.ofOutcome)
  | disconnect {d : DirectRun σ} : d.caller = .free →
      Step d (d.perform (Ctl.disconnect w.recorded) Caller.ofOutcome)
  | process {d : DirectRun σ} : d.caller = .free →
      Step d (d.perform (Ctl.processPending w.recorded) fun _ => .free)
  | turn {d : DirectRun σ} : d.caller = .awaiting →
      Step d (d.perform (Ctl.turn w.recorded) Caller.ofTurn)
  | event {d : DirectRun σ} (e : Envelope) : Step d { d with controller := d.controller.enqueue e }
  | world {d : DirectRun σ} (s : σ) : Step d { d with world := s }

inductive Reachable : DirectRun σ → Prop
  | fresh (settings : ControllerSettings) (s : σ) : Reachable (fresh settings s)
  | step {d d' : DirectRun σ} : Reachable d → Step w d d' → Reachable d'

/-- What holds at every point of a direct run. -/
structure Sound (d : DirectRun σ) : Prop where
  consistent : d.controller.Consistent
  waits : d.controller.Waits
  /-- Every request taken is answered or waits for a teardown: nobody holds one. -/
  account : Answering [] d.controller.started d.controller.waiters d.trace
  /-- A free caller leaves nothing awaited and no request waiting. -/
  free : d.caller = .free → d.controller.waiting = none ∧ d.controller.waiters = []

theorem sound_fresh (settings : ControllerSettings) (s : σ) : (fresh settings s).Sound where
  consistent := consistent_ofSettings settings
  waits := .of_none rfl rfl
  account := ⟨by simp [fresh, ofSettings], fun _ _ h => by simp [fresh] at h,
    by simp [fresh, ofSettings]⟩
  free := fun _ => ⟨rfl, rfl⟩

variable {w}

theorem Sound.keeps {d : DirectRun σ} (h : d.Sound) :
    Keeps [] d.controller.started d.trace d.controller (d.world, d.trace) :=
  ⟨h.account, rfl, List.prefix_refl _, releasedAnswers_self⟩

/-- An operation that ended keeping the account, consistent and waiting as it should, and with
nothing awaited once its caller is free, leaves the run sound. -/
theorem sound_of_keeps {tr₀ : List Contact} {n : Nat} {c : Controller} {p : σ × List Contact}
    {caller : Caller} (hk : Keeps [] n tr₀ c p) (hc : c.Consistent) (hw : c.Waits)
    (hfree : caller = .free → c.waiting = none ∧ c.waiters = []) :
    Sound ⟨c, p.1, p.2, caller⟩ where
  consistent := hc
  waits := hw
  account := hk.2.1 ▸ hk.1
  free := hfree

theorem Sound.connect {d : DirectRun σ} (h : d.Sound) (hfree : d.caller = .free) :
    (d.perform (Ctl.connect w.recorded) Caller.ofOutcome).Sound := by
  apply perform_of_wp
  obtain ⟨hw, hq⟩ := h.free hfree
  by_cases hidle : d.controller.view.connection = .idle
  · refine ((Ctl.connect_keeps w [] _ _).and (Ctl.connect_consistent w.recorded)).wp
      ⟨⟨h.keeps, rfl, hidle, hq⟩, h.consistent⟩ ?_
    rintro res c p ⟨⟨hk, ho, hw'⟩, hc⟩
    refine sound_of_keeps hk hc hw' fun hres => ?_
    -- the connect ended at once: nothing is awaited
    cases res with
    | some st => exact ho
    | none => cases hres
  · -- a connect that is not from idle answers at once and changes nothing
    rw [Ctl.wp_connect_of_not_idle w.recorded hidle]
    exact sound_of_keeps h.keeps h.consistent h.waits fun _ => ⟨hw, hq⟩

theorem Sound.disconnect {d : DirectRun σ} (h : d.Sound) :
    (d.perform (Ctl.disconnect w.recorded) Caller.ofOutcome).Sound := by
  apply perform_of_wp
  refine ((Ctl.disconnect_keeps w [] _ _).and (Ctl.disconnect_consistent w.recorded)).wp
    ⟨h.keeps, h.consistent.clearWaiters⟩ ?_
  rintro res c p ⟨⟨hk, hset⟩, hc⟩
  refine sound_of_keeps hk hc hset.waits fun hres => ?_
  cases res with
  | some st => exact hset.over
  | none => cases hres

theorem Sound.process {d : DirectRun σ} (h : d.Sound) (hfree : d.caller = .free) :
    (d.perform (Ctl.processPending w.recorded) fun _ => .free).Sound := by
  apply perform_of_wp
  obtain ⟨hw, hq⟩ := h.free hfree
  refine ((Ctl.processPending_keeps w [] _ _ _).and (Ctl.processPending_consistent w.recorded)).wp
    ⟨⟨rfl, h.keeps⟩, h.consistent⟩ ?_
  rintro _ c p ⟨⟨hk, hw', hq'⟩, hc⟩
  -- dispatching keeps what is awaited, and the waiting requests or none of them
  have hnil : c.waiters = [] := hq'.elim (·.trans hq) id
  exact sound_of_keeps hk hc (.of_none (hw'.trans hw) hnil) fun _ => ⟨hw'.trans hw, hnil⟩

theorem Sound.turn {d : DirectRun σ} (h : d.Sound) :
    (d.perform (Ctl.turn w.recorded) Caller.ofTurn).Sound := by
  apply perform_of_wp
  refine ((Ctl.turn_keeps w [] _ _).and (Ctl.turn_consistent w.recorded)).wp
    ⟨⟨h.keeps, h.waits⟩, h.consistent⟩ ?_
  rintro t c p ⟨⟨hk, hw, ho⟩, hc⟩
  refine sound_of_keeps hk hc hw fun hfree => ?_
  -- only a finished operation frees the caller
  cases t with
  | finished st => exact ho
  | continues => cases hfree
  | blocked resumes => cases resumes <;> cases hfree

theorem Sound.step {d d' : DirectRun σ} (h : d.Sound) (hs : Step w d d') : d'.Sound := by
  cases hs with
  | connect hfree => exact h.connect hfree
  | disconnect _ => exact h.disconnect
  | process hfree => exact h.process hfree
  | turn _ => exact h.turn
  | event e =>
      exact { consistent := h.consistent.enqueue e, waits := ⟨h.waits.queued, h.waits.owned⟩,
              account := h.account, free := h.free }
  | world s => exact { h with }

theorem Reachable.sound {d : DirectRun σ} (hd : d.Reachable w) : d.Sound := by
  induction hd with
  | fresh settings s => exact sound_fresh settings s
  | step _ hs ih => exact ih.step hs

theorem Reachable.of_steps {d d' : DirectRun σ} (hd : d.Reachable w)
    (h : Relation.ReflTransGen (Step w) d d') : d'.Reachable w := by
  induction h with
  | refl => exact hd
  | tail _ hs ih => exact ih.step hs

theorem reachable_fresh_connect (settings : ControllerSettings) (s : σ) :
    ((fresh settings s).perform (Ctl.connect w.recorded) Caller.ofOutcome).Reachable w :=
  .step (.fresh settings s) (.connect rfl)

/-! ### Awaiting an operation -/

/-- Taking turns until the operation is over, it hangs or the turns run out ends at a point
reached from `d₀` by steps of the run, whatever the number of turns allowed. -/
theorem runToEnd_steps {d₀ : DirectRun σ}
    {Q : Option ConnectionState → Controller → σ × List Contact → Prop}
    (hQ : ∀ res (d : DirectRun σ), Relation.ReflTransGen (Step w) d₀ d →
      Q res d.controller (d.world, d.trace)) (fuel : Nat) :
    ∀ d : DirectRun σ, Relation.ReflTransGen (Step w) d₀ d → d.caller = .awaiting →
      Ctl.wp (Ctl.runToEnd w.recorded fuel) Q d.controller (d.world, d.trace) := by
  induction fuel with
  | zero => exact fun d hd _ => hQ none d hd
  | succ fuel ih =>
      intro d hd ha
      simp only [Ctl.runToEnd, Ctl.wp_bind]
      -- the turn is a step; what follows it depends on how it went
      have hturn : Ctl.wp (Ctl.turn w.recorded)
          (fun t c p => Relation.ReflTransGen (Step w) d₀ ⟨c, p.1, p.2, Caller.ofTurn t⟩)
          d.controller (d.world, d.trace) := hd.tail (.turn ha)
      refine Ctl.wp_mono (fun t c p hr => ?_) hturn
      cases t with
      | finished st => exact hQ (some st) _ hr
      | continues => exact ih _ hr rfl
      | blocked resumes =>
          cases resumes with
          | true => exact ih _ hr rfl
          | false => exact hQ none _ hr

/-- An operation the caller awaits to its end, as the direct host awaits a connect or a
disconnect, ends at a point reached from where it started by steps of the run. -/
theorem await?_steps {op : Ctl (σ × List Contact) (Option ConnectionState)} {d₀ : DirectRun σ}
    {Q : Option ConnectionState → Controller → σ × List Contact → Prop}
    (hQ : ∀ res (d : DirectRun σ), Relation.ReflTransGen (Step w) d₀ d →
      Q res d.controller (d.world, d.trace))
    (hop : Step w d₀ (d₀.perform op Caller.ofOutcome)) :
    Ctl.wp (Ctl.await? w.recorded op) Q d₀.controller (d₀.world, d₀.trace) := by
  simp only [Ctl.await?, Ctl.awaitFor, Ctl.wp_bind]
  have hstart : Ctl.wp op
      (fun res c p => Relation.ReflTransGen (Step w) d₀ ⟨c, p.1, p.2, Caller.ofOutcome res⟩)
      d₀.controller (d₀.world, d₀.trace) := Relation.ReflTransGen.single hop
  refine Ctl.wp_mono (fun res c p hr => ?_) hstart
  cases res with
  | some st => exact hQ (some st) _ hr
  | none => exact runToEnd_steps hQ turnLimit _ hr rfl

end DirectRun

end VoiceSession
