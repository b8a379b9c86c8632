import VoiceSession.Binder
/-!
# What a binder's calls do to the sink

Each call binds at most one track, its `target`; the sink gets an attach of exactly that track
when none of its id is held and a release exactly when the call leaves nothing held
(`Binder.call_ops`). From an empty binder the operations form a `SinkLog`.
-/

namespace VoiceSession

namespace SinkOp

def plays : SinkOp → Option Track
  | .attach [t] => some t
  | _ => none

theorem plays_eq_some {op : SinkOp} {t : Track} (h : op.plays = some t) : op = .attach [t] := by
  unfold plays at h
  split at h
  · cases h
    rfl
  · cases h

end SinkOp

/-- Operations made in order on a sink that played nothing, each one a binder can make, and the
track the sink plays after them: an attach of one track whose id is not the one playing, or a
release of a sink that plays something. -/
inductive SinkLog : List SinkOp → Option Track → Prop
  | nil : SinkLog [] none
  | attach {ops : List SinkOp} {p : Option Track} {t : Track} :
      SinkLog ops p → p.map Track.id ≠ some t.id → SinkLog (ops ++ [.attach [t]]) (some t)
  | release {ops : List SinkOp} {t : Track} :
      SinkLog ops (some t) → SinkLog (ops ++ [.release]) none

theorem append_cons_eq_concat {α : Type} {pre post ops : List α} {a x : α}
    (h : pre ++ a :: post = ops ++ [x]) :
    (post = [] ∧ pre = ops ∧ a = x) ∨ ∃ post', post = post' ++ [x] ∧ ops = pre ++ a :: post' := by
  rcases List.eq_nil_or_concat post with rfl | ⟨post', y, rfl⟩
  · obtain ⟨hpre, hax⟩ := List.append_inj' h rfl
    exact .inl ⟨rfl, hpre, by simpa using hax⟩
  · have h' : (pre ++ a :: post') ++ [y] = ops ++ [x] := by simpa using h
    obtain ⟨hops, hyx⟩ := List.append_inj' h' rfl
    simp only [List.cons.injEq, and_true] at hyx
    exact .inr ⟨post', by rw [hyx, List.concat_eq_append], hops.symm⟩

namespace SinkLog

variable {ops : List SinkOp} {p : Option Track}

/-- The sink plays the track the last operation attached, and nothing if the last operation was
a release or there was none. -/
theorem plays_last (h : SinkLog ops p) : p = ops.getLast?.bind SinkOp.plays := by
  cases h <;> simp [SinkOp.plays]

theorem release_after_attach (h : SinkLog ops p) {pre post : List SinkOp}
    (hops : ops = pre ++ .release :: post) : ∃ t, pre.getLast? = some (.attach [t]) := by
  induction h generalizing post with
  | nil => simp at hops
  | @attach ops p t _ _ ih =>
    rcases append_cons_eq_concat hops.symm with ⟨-, -, hx⟩ | ⟨post', -, hops'⟩
    · cases hx
    · exact ih hops'
  | @release ops t hlog ih =>
    rcases append_cons_eq_concat hops.symm with ⟨-, rfl, -⟩ | ⟨post', -, hops'⟩
    · -- the sink played `t`, so the operation before the release attached it
      obtain ⟨op, hlast, hop⟩ := Option.bind_eq_some_iff.1 hlog.plays_last.symm
      exact ⟨t, by rw [hlast, SinkOp.plays_eq_some hop]⟩
    · exact ih hops'

theorem attach_ids_differ (h : SinkLog ops p) {pre post : List SinkOp} {t u : Track}
    (hops : ops = pre ++ .attach [t] :: .attach [u] :: post) : t.id ≠ u.id := by
  induction h generalizing post with
  | nil => simp at hops
  | @attach ops p w hlog hne ih =>
    have hops' : (pre ++ [.attach [t]]) ++ .attach [u] :: post = ops ++ [.attach [w]] := by
      simpa using hops.symm
    rcases append_cons_eq_concat hops' with ⟨-, hpre, hx⟩ | ⟨post', -, hops''⟩
    · -- the first attach was the last operation of `ops`, so it played `t`
      have hp : p = some t := by rw [hlog.plays_last, ← hpre]; simp [SinkOp.plays]
      cases hx
      simpa [hp] using hne
    · have hrest : ops = pre ++ .attach [t] :: .attach [u] :: post' := by simpa using hops''
      exact ih hrest
  | @release ops t' _ ih =>
    have hops' : (pre ++ [.attach [t]]) ++ .attach [u] :: post = ops ++ [.release] := by
      simpa using hops.symm
    rcases append_cons_eq_concat hops' with ⟨-, -, hx⟩ | ⟨post', -, hops''⟩
    · cases hx
    · have hrest : ops = pre ++ .attach [t] :: .attach [u] :: post' := by simpa using hops''
      exact ih hrest

end SinkLog

namespace Binder

namespace Call

/-- The track a call binds: the track given to `bind`, the first remote audio track given to
`reconcile`; a release binds none. -/
def target : Call → Option Track
  | .bind t => some t
  | .reconcile ts => ts.find? Track.isRemoteAudio
  | .release => none

/-- The sink operations a call is to make on a binder holding `before` that it leaves holding
`after`: an attach of the track it binds unless a track of that id is held, then a release when
it leaves nothing held where something was. -/
def sinkEffect (c : Call) (before after : Option Track) : List SinkOp :=
  (c.target.filter fun t => before.map Track.id != some t.id).toList.map (fun t => .attach [t]) ++
    if before.isSome && after.isNone then [.release] else []

end Call

variable {b : Binder}

theorem bind_eq (b : Binder) (t : Track) :
    b.bind t = if b.bound.map Track.id = some t.id then ⟨false, b, []⟩
      else ⟨true, { bound := some t }, [.attach [t]]⟩ := by
  unfold bind
  cases b.bound <;> simp

theorem release_eq (b : Binder) :
    b.release = if b.bound.isSome then ⟨true, {}, [.release]⟩ else ⟨false, b, []⟩ := by
  unfold release
  cases b.bound <;> simp

theorem bind_bound_id (b : Binder) (t : Track) : (b.bind t).binder.bound.map Track.id = some t.id := by
  rw [bind_eq]
  split <;> simp_all

theorem call_of_target {c : Call} {t : Track} (h : c.target = some t) : b.call c = b.bind t := by
  cases c with
  | bind u => cases h; rfl
  | reconcile ts => simp only [Call.target] at h; simp [call, reconcile, h]
  | release => cases h

theorem call_of_target_none {c : Call} (h : c.target = none) (hc : c ≠ .release) :
    b.call c = ⟨false, b, []⟩ := by
  cases c with
  | bind u => cases h
  | reconcile ts => simp only [Call.target] at h; simp [call, reconcile, h]
  | release => exact absurd rfl hc

theorem call_ops (b : Binder) (c : Call) :
    (b.call c).ops = c.sinkEffect b.bound (b.call c).binder.bound := by
  obtain ⟨held⟩ := b
  rcases hc : c.target with _ | t
  · by_cases hr : c = .release
    · subst hr
      cases held <;> rfl
    · rw [call_of_target_none hc hr]
      cases held <;> simp [Call.sinkEffect, hc]
  · rw [call_of_target hc, bind_eq]
    cases held with
    | none => simp [Call.sinkEffect, hc, Option.filter_some]
    | some u => by_cases hu : u.id = t.id <;> simp [Call.sinkEffect, hc, hu, Option.filter_some]

theorem sinkLog_call {ops : List SinkOp} (h : SinkLog ops b.bound) (c : Call) :
    SinkLog (ops ++ (b.call c).ops) (b.call c).binder.bound := by
  rcases hc : c.target with _ | t
  · by_cases hr : c = .release
    · subst hr
      show SinkLog (ops ++ b.release.ops) b.release.binder.bound
      rw [release_eq]
      split
      · rename_i hb
        obtain ⟨u, hu⟩ := Option.isSome_iff_exists.1 hb
        exact .release (hu ▸ h)
      · simpa using h
    · rw [call_of_target_none hc hr]
      simpa using h
  · rw [call_of_target hc, bind_eq]
    split
    · simpa using h
    · rename_i hne
      exact .attach h hne

theorem sinkLog_perform {ops : List SinkOp} (h : SinkLog ops b.bound) (cs : List Call) :
    SinkLog (ops ++ (b.perform cs).2) (b.perform cs).1.bound := by
  induction cs generalizing b ops with
  | nil => simpa [perform] using h
  | cons c cs ih =>
    simpa [perform] using ih (sinkLog_call h c)

/-- Reconciling holds the first remote audio track of the list, by id; without one it keeps what
is held. -/
theorem reconcile_bound_id (b : Binder) (ts : List Track) :
    (b.reconcile ts).binder.bound.map Track.id =
      ((ts.find? Track.isRemoteAudio).map Track.id).or (b.bound.map Track.id) := by
  unfold reconcile
  split
  · rename_i t ht
    simp [ht, bind_bound_id]
  · rename_i ht
    simp [ht]

theorem call_call (b : Binder) (c : Call) :
    (b.call c).binder.call c = ⟨false, (b.call c).binder, []⟩ := by
  rcases hc : c.target with _ | t
  · by_cases hr : c = .release
    · subst hr
      obtain ⟨_ | u⟩ := b <;> rfl
    · rw [call_of_target_none hc hr, call_of_target_none hc hr]
  · rw [call_of_target hc, call_of_target hc, bind_eq]
    simp [bind_bound_id]

/-- What calls on a binder give the sink: an attach of the call's `target` unless a track of its id
is held, a release when the call leaves nothing held, and nothing else. From an empty binder the
track held is the last attached, every release follows an attach, and a call made twice does
nothing the second time. -/
theorem calls_drive_sink :
    (∀ (b : Binder) (c : Call), (b.call c).ops = c.sinkEffect b.bound (b.call c).binder.bound) ∧
    (∀ cs : List Call,
      (perform {} cs).1.bound = (perform {} cs).2.getLast?.bind SinkOp.plays ∧
      (∀ pre post, (perform {} cs).2 = pre ++ .release :: post →
        ∃ t, pre.getLast? = some (.attach [t])) ∧
      (∀ pre post (t u : Track), (perform {} cs).2 = pre ++ .attach [t] :: .attach [u] :: post →
        t.id ≠ u.id)) ∧
    (∀ (b : Binder) (ts : List Track), (b.reconcile ts).binder.bound.map Track.id =
      ((ts.find? Track.isRemoteAudio).map Track.id).or (b.bound.map Track.id)) ∧
    (∀ (b : Binder) (c : Call), (b.call c).binder.call c = ⟨false, (b.call c).binder, []⟩) := by
  refine ⟨call_ops, fun cs => ?_, reconcile_bound_id, call_call⟩
  -- from an empty binder the operations are a log
  have hlog : SinkLog (perform {} cs).2 (perform {} cs).1.bound := by
    simpa using @sinkLog_perform {} [] SinkLog.nil cs
  exact ⟨hlog.plays_last, fun _ _ h => hlog.release_after_attach h,
    fun _ _ _ _ h => hlog.attach_ids_differ h⟩

/-- Playing a remote track and then releasing it leaves nothing bound. -/
theorem reconcile_then_release_unbinds :
    (perform {} [.reconcile [⟨"a1", .audio, { isLocal := false }⟩], .release]).1.bound = none := by
  rw [((calls_drive_sink.2.1) _).1]
  decide

end Binder

end VoiceSession
