import VoiceSession.Controller.Lifecycle
/-!
# Reasoning about controller operations

`wp x Q c s` says that `x`, run from the controller `c` with the world in state `s`, ends
satisfying `Q`; `Triple P x Q` says so from every start satisfying `P`. Each primitive gets its
exact effect here, so later proofs cite triples and never unfold an operation.
-/

namespace VoiceSession

namespace Ctl

variable {σ α β : Type}

/-- `wp x Q c s`: run from `c` with the world in state `s`, `x` answers and leaves a controller
and a world state that together satisfy `Q`. -/
def wp (x : Ctl σ α) (Q : α → Controller → σ → Prop) (c : Controller) (s : σ) : Prop :=
  Q ((x.run c).run s).1.1 ((x.run c).run s).1.2 ((x.run c).run s).2

/-- `Triple P x Q`: from every controller and world state satisfying `P`, the operation `x`
ends in a state satisfying `Q` of its answer. -/
def Triple (P : Controller → σ → Prop) (x : Ctl σ α) (Q : α → Controller → σ → Prop) : Prop :=
  ∀ c s, P c s → wp x Q c s

/-! ### Sequencing -/

section Sequencing

variable {Q R : α → Controller → σ → Prop} {c : Controller} {s : σ}

@[simp] theorem wp_pure (a : α) : wp (pure a : Ctl σ α) Q c s = Q a c s := rfl

@[simp] theorem wp_bind (x : Ctl σ β) (f : β → Ctl σ α) :
    wp (x >>= f) Q c s = wp x (fun b => wp (f b) Q) c s := rfl

@[simp] theorem wp_map (f : β → α) (x : Ctl σ β) :
    wp (f <$> x) Q c s = wp x (fun b => Q (f b)) c s := rfl

@[simp] theorem wp_get {Q : Controller → Controller → σ → Prop} :
    wp (get : Ctl σ Controller) Q c s = Q c c s := rfl

@[simp] theorem wp_modify {Q : Unit → Controller → σ → Prop} (f : Controller → Controller) :
    wp (modify f : Ctl σ Unit) Q c s = Q () (f c) s := rfl

@[simp] theorem wp_set {Q : PUnit → Controller → σ → Prop} (c' : Controller) :
    wp (set c' : Ctl σ PUnit) Q c s = Q () c' s := rfl

@[simp] theorem wp_getWorld {Q : σ → Controller → σ → Prop} :
    wp (getThe σ : Ctl σ σ) Q c s = Q s c s := rfl

@[simp] theorem wp_lift (m : StateM σ α) :
    wp (liftM m : Ctl σ α) Q c s = Q (m.run s).1 c (m.run s).2 := rfl

theorem wp_ite (b : Prop) [Decidable b] (x y : Ctl σ α) :
    wp (if b then x else y) Q c s = if b then wp x Q c s else wp y Q c s := by
  split <;> rfl

theorem wp_mono {x : Ctl σ α} (h : ∀ a c s, R a c s → Q a c s) (hx : wp x R c s) : wp x Q c s :=
  h _ _ _ hx

theorem wp_and {x : Ctl σ α} (h₁ : wp x Q c s) (h₂ : wp x R c s) :
    wp x (fun a c s => Q a c s ∧ R a c s) c s :=
  ⟨h₁, h₂⟩

/-- Using a proved triple inside a larger proof: the caller shows the precondition at the call
and what the callee's postcondition gives for the rest of the program. -/
theorem Triple.wp {P : Controller → σ → Prop} {x : Ctl σ α} (h : Triple P x R) (hP : P c s)
    (hQ : ∀ a c s, R a c s → Q a c s) : wp x Q c s :=
  wp_mono hQ (h c s hP)

theorem Triple.mono {P P' : Controller → σ → Prop} {x : Ctl σ α} (h : Triple P x R)
    (hP : ∀ c s, P' c s → P c s) (hQ : ∀ a c s, R a c s → Q a c s) : Triple P' x Q :=
  fun _ _ hc => h.wp (hP _ _ hc) hQ

theorem Triple.and {P₁ P₂ : Controller → σ → Prop} {Q₁ Q₂ : α → Controller → σ → Prop}
    {x : Ctl σ α} (h₁ : Triple P₁ x Q₁) (h₂ : Triple P₂ x Q₂) :
    Triple (fun c s => P₁ c s ∧ P₂ c s) x (fun a c s => Q₁ a c s ∧ Q₂ a c s) :=
  fun c s hP => ⟨h₁ c s hP.1, h₂ c s hP.2⟩

/-- A loop whose body only calls the world leaves the controller alone, and the world runs the
calls in order. -/
theorem wp_forIn_lift {xs : List β} (f : β → StateM σ Unit) {Q : PUnit → Controller → σ → Prop} :
    wp (forIn xs PUnit.unit fun x _ => do liftM (f x); pure (ForInStep.yield PUnit.unit)) Q c s =
      Q PUnit.unit c ((xs.forM f).run s).2 := by
  induction xs generalizing s with
  | nil => rfl
  | cons x xs ih =>
      simp only [List.forIn_cons, wp_bind, wp_lift, wp_pure]
      exact ih

theorem Triple.forIn {xs : List β} {I : Controller → σ → Prop} {body : β → Ctl σ Unit}
    (h : ∀ x ∈ xs, Triple I (body x) (fun _ => I)) :
    Triple I (forIn xs PUnit.unit fun x _ => do body x; pure (ForInStep.yield PUnit.unit))
      (fun _ => I) := by
  induction xs with
  | nil => exact fun _ _ hI => hI
  | cons x xs ih =>
      intro c s hI
      simp only [List.forIn_cons, wp_bind]
      exact (h x (List.mem_cons_self ..)).wp hI fun _ c s hI =>
        ih (fun y hy => h y (List.mem_cons_of_mem x hy)) c s hI

end Sequencing

/-! ### The controller's primitives

Each primitive is given its whole effect on the controller and on the world, as an equation
that `simp` uses. The record updates are spelled out, so that a later proof reads a field off
them without unfolding anything. -/

section Primitives

variable {Q : Unit → Controller → σ → Prop} {c : Controller} {s : σ}

@[simp] theorem wp_state {Q : ConnectionState → Controller → σ → Prop} :
    wp (state : Ctl σ ConnectionState) Q c s = Q c.view.connection c s := rfl

@[simp] theorem wp_isLive {Q : Bool → Controller → σ → Prop} (id : SessionId) :
    wp (isLive id : Ctl σ Bool) Q c s = Q (c.isLive id) c s := rfl

@[simp] theorem wp_modifyView (f : View → View) :
    wp (modifyView f : Ctl σ Unit) Q c s = Q () { c with view := f c.view } s := rfl

@[simp] theorem wp_publish : wp (publish : Ctl σ Unit) Q c s = Q () { c with published := c.view } s :=
  rfl

@[simp] theorem wp_setState (st : ConnectionState) :
    wp (setState st : Ctl σ Unit) Q c s =
      Q () { c with
        view := { c.view with connection := st, connectEnabled := st.canConnect,
                              disconnectEnabled := st.canDisconnect }
        published := { c.view with connection := st, connectEnabled := st.canConnect,
                                   disconnectEnabled := st.canDisconnect }
        transitions := c.transitions ++ [(c.view.connection, st)] } s := rfl

@[simp] theorem wp_log (text : String) :
    wp (log text : Ctl σ Unit) Q c s =
      Q () { c with view := { c.view with log := c.view.log ++ [LogEntry.ofText text] } } s := rfl

@[simp] theorem wp_setStatus (status : String) :
    wp (setStatus status : Ctl σ Unit) Q c s =
      Q () { c with view := { c.view with log := c.view.log ++ [LogEntry.ofText ("Status: " ++ status)],
                                          status := status }
                    statusChanges := c.statusChanges ++ [status] } s := rfl

@[simp] theorem wp_finish {Q : Option ConnectionState → Controller → σ → Prop} :
    wp (finish : Ctl σ (Option ConnectionState)) Q c s =
      Q (some c.view.connection) { c with waiting := none } s := rfl

@[simp] theorem wp_await {Q : Option ConnectionState → Controller → σ → Prop} (w : World σ)
    (wt : Waiting) (call : Call) :
    wp (await w wt call) Q c s = Q none { c with waiting := some wt } ((w.begin wt.session call).run s).2 :=
  rfl

/-- The events a poll reports are queued behind those already waiting, tagged with the session
of the awaited call. -/
theorem wp_forIn_enqueue {es : List Event} (id : SessionId) {Q : PUnit → Controller → σ → Prop} :
    wp (forIn es PUnit.unit fun e _ => do
        modify fun c => c.enqueue ⟨id, e⟩
        pure (ForInStep.yield PUnit.unit)) Q c s =
      Q PUnit.unit { c with inbox := c.inbox ++ es.map fun e => ⟨id, e⟩ } s := by
  induction es generalizing c with
  | nil => simp
  | cons e es ih =>
      simp only [List.forIn_cons, wp_bind, wp_modify, wp_pure]
      rw [ih]
      simp [Controller.enqueue]

/-- A binder operation: the binder replaced by the outcome's, its sink operations passed to the
world in order. -/
@[simp] theorem wp_useBinder {Q : Bool → Controller → σ → Prop} (w : World σ)
    (f : Binder → Binder.Outcome) :
    wp (useBinder w f) Q c s =
      Q (f c.binder).acted { c with binder := (f c.binder).binder }
        (((f c.binder).ops.forM w.sink).run s).2 := by
  simp only [useBinder, wp_bind, wp_get, wp_modify, wp_forIn_lift, wp_pure]

/-- Every waiting disconnect request is answered with the current state, in the order they
came, and none waits any more. -/
@[simp] theorem wp_notifyWaiters (w : World σ) :
    wp (notifyWaiters w) Q c s =
      Q () { c with waiters := [] } ((c.waiters.forM fun r => w.reply r c.view.connection).run s).2 := by
  simp only [notifyWaiters, wp_bind, wp_state, wp_get, wp_forIn_lift, wp_modify]

@[simp] theorem wp_reconcileTracks (w : World σ) (id : SessionId) :
    wp (reconcileTracks w id) Q c s =
      Q () { c with binder := (c.binder.reconcile ((w.tracks id).run s).1).binder }
        ((((c.binder.reconcile ((w.tracks id).run s).1).ops.forM w.sink).run
          ((w.tracks id).run s).2).2) := by
  simp only [reconcileTracks, wp_bind, wp_lift, wp_useBinder, wp_pure]

end Primitives

end Ctl

end VoiceSession
