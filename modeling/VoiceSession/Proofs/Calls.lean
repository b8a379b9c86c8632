import VoiceSession.Proofs.Requests
/-!
# The calls made on each transport

Each session's transport follows the automaton `Stage`: devices, then at most one join, then at
most one disconnect and nothing after, with track requests in between. `Lifecycle` ties the
transports to the controller; its lemmas say what each kind of step does to it.
-/

namespace VoiceSession

inductive Use where
  | call (call : Call)
  | tracks
  deriving DecidableEq

def Use.call? : Use → Option Call
  | .call c => some c
  | .tracks => none

namespace Contact

def useOf (id : SessionId) : Contact → Option Use
  | .begin id' call => if id' = id then some (.call call) else none
  | .tracks id' => if id' = id then some .tracks else none
  | _ => none

def begun? : Contact → Option (SessionId × Call)
  | .begin id call => some (id, call)
  | _ => none

/-- A contact that uses no transport and makes none: a poll, an operation of the sink, a request
taken or answered, or a transport the factory refused. -/
def Silent (x : Contact) : Prop :=
  (∀ id, x.useOf id = none) ∧ x.begun? = none ∧ ∀ id, x ≠ .create id (.ok ())

@[simp] theorem silent_poll (st : PollStatus) : (Contact.poll st).Silent :=
  ⟨fun _ => rfl, rfl, fun _ h => by cases h⟩
@[simp] theorem silent_sink (op : SinkOp) : (Contact.sink op).Silent :=
  ⟨fun _ => rfl, rfl, fun _ h => by cases h⟩
@[simp] theorem silent_reply (r : RequestId) (st : ConnectionState) : (Contact.reply r st).Silent :=
  ⟨fun _ => rfl, rfl, fun _ h => by cases h⟩
@[simp] theorem silent_take (cmd : Option Command) : (Contact.take cmd).Silent :=
  ⟨fun _ => rfl, rfl, fun _ h => by cases h⟩
@[simp] theorem silent_create_error (id : SessionId) (e : String) :
    (Contact.create id (.error e)).Silent :=
  ⟨fun _ => rfl, rfl, fun _ h => by cases h⟩

end Contact

def uses (id : SessionId) (tr : List Contact) : List Use := tr.filterMap (Contact.useOf id)

def callsOf (us : List Use) : List Call := us.filterMap Use.call?

def lastBegun (tr : List Contact) : Option (SessionId × Call) :=
  (tr.filterMap Contact.begun?).getLast?

section Views

variable {tr new : List Contact} {id : SessionId}

@[simp] theorem uses_nil : uses id [] = [] := rfl

@[simp] theorem uses_append : uses id (tr ++ new) = uses id tr ++ uses id new :=
  List.filterMap_append

theorem uses_cons (x : Contact) : uses id (x :: tr) = (x.useOf id).toList ++ uses id tr := by
  cases h : x.useOf id <;> simp [uses, h]

@[simp] theorem uses_begin (id' : SessionId) (call : Call) :
    uses id [.begin id' call] = if id' = id then [.call call] else [] := by
  by_cases h : id' = id <;> simp [uses, Contact.useOf, h]

@[simp] theorem uses_tracks (id' : SessionId) :
    uses id [.tracks id'] = if id' = id then [.tracks] else [] := by
  by_cases h : id' = id <;> simp [uses, Contact.useOf, h]

theorem uses_silent (h : ∀ x ∈ new, x.Silent) : uses id new = [] :=
  List.filterMap_eq_nil_iff.2 fun x hx => (h x hx).1 id

@[simp] theorem uses_silent_one {x : Contact} (hx : x.Silent) : uses id [x] = [] :=
  uses_silent (by simpa using hx)

@[simp] theorem uses_map_sink (ops : List SinkOp) : uses id (ops.map .sink) = [] :=
  uses_silent (by simp)

@[simp] theorem uses_map_reply (rs : List RequestId) (st : ConnectionState) :
    uses id (rs.map fun r => .reply r st) = [] :=
  uses_silent (by simp)

@[simp] theorem callsOf_nil : callsOf [] = [] := rfl

@[simp] theorem callsOf_append (us vs : List Use) : callsOf (us ++ vs) = callsOf us ++ callsOf vs :=
  List.filterMap_append

theorem lastBegun_append (h : ∀ x ∈ new, x.begun? = none) : lastBegun (tr ++ new) = lastBegun tr := by
  simp [lastBegun, List.filterMap_eq_nil_iff.2 h]

@[simp] theorem lastBegun_append_begin (call : Call) :
    lastBegun (tr ++ [.begin id call]) = some (id, call) := by
  simp [lastBegun, Contact.begun?]

end Views

/-! ### The lifecycle of a transport -/

/-- How far the lifecycle of a transport has gone. -/
inductive Stage where
  | unused
  | acquiring
  | joined
  | left
  deriving DecidableEq

namespace Stage

/-- The stage after one more use, if that use is allowed: the devices first, then at most one
join, then at most one disconnect, and the tracks in between. -/
def next : Stage → Use → Option Stage
  | .unused, .call .devices => some .acquiring
  | .acquiring, .tracks => some .acquiring
  | .acquiring, .call (.join _) => some .joined
  | .acquiring, .call .leave => some .left
  | .joined, .tracks => some .joined
  | .joined, .call .leave => some .left
  | _, _ => none

def run : Stage → List Use → Option Stage
  | s, [] => some s
  | s, u :: us => (s.next u).bind fun s' => s'.run us

@[simp] theorem run_nil (s : Stage) : s.run [] = some s := rfl

@[simp] theorem run_cons (s : Stage) (u : Use) (us : List Use) :
    s.run (u :: us) = (s.next u).bind (·.run us) := rfl

@[simp] theorem run_append (s : Stage) (us vs : List Use) :
    s.run (us ++ vs) = (s.run us).bind (·.run vs) := by
  induction us generalizing s with
  | nil => rfl
  | cons u us ih => cases h : s.next u <;> simp [h, ih]

@[simp] theorem next_tracks_acquiring : Stage.acquiring.next .tracks = some .acquiring := rfl
@[simp] theorem next_tracks_joined : Stage.joined.next .tracks = some .joined := rfl

theorem eq_leave_of_next {s : Stage} {u : Use} (h : s.next u = some .left) : u = .call .leave := by
  cases s <;> rcases u with (_ | _ | _) | _ <;> simp [next] at h ⊢

theorem run_left {us : List Use} {s : Stage} (h : Stage.left.run us = some s) : us = [] := by
  rcases us with _ | ⟨(_ | _ | _) | _, us⟩ <;> simp [next] at h ⊢

theorem leave_mem_iff {s₀ s : Stage} {us : List Use} (h₀ : s₀ ≠ .left) (h : s₀.run us = some s) :
    Use.call .leave ∈ us ↔ s = .left := by
  induction us generalizing s₀ with
  | nil =>
      simp only [run_nil, Option.some.injEq] at h
      subst h
      simp [h₀]
  | cons u us ih =>
      obtain ⟨s₁, h₁, hrun⟩ := Option.bind_eq_some_iff.1 h
      by_cases hu : u = .call .leave
      · -- the disconnect ends the lifecycle: nothing follows it
        subst hu
        have hs₁ : s₁ = .left := by
          cases s₀ <;> simp [next] at h₁ <;> exact h₁.symm
        subst hs₁
        obtain rfl := run_left hrun
        simp only [run_nil, Option.some.injEq] at hrun
        simp [hrun]
      · have hs₁ : s₁ ≠ .left := fun hl => hu (eq_leave_of_next (hl ▸ h₁))
        rw [List.mem_cons, ← ih hs₁ hrun]
        exact or_iff_right (Ne.symm hu)

theorem devices_mem {us : List Use} {s : Stage} (h : Stage.unused.run us = some s)
    (hs : s ≠ .unused) : Use.call .devices ∈ us := by
  rcases us with _ | ⟨(_ | _ | _) | _, us⟩ <;> simp [next] at h ⊢
  · exact hs h.symm

/-- The calls that lead to each stage: none; the devices; the devices and a join; the devices,
perhaps a join, and a disconnect. -/
def Follows : Stage → List Call → Prop
  | .unused, cs => cs = []
  | .acquiring, cs => cs = [.devices]
  | .joined, cs => ∃ p, cs = [.devices, .join p]
  | .left, cs => cs = [.devices, .leave] ∨ ∃ p, cs = [.devices, .join p, .leave]

theorem Follows.next {s s' : Stage} {cs : List Call} {u : Use} (h : s.Follows cs)
    (hn : s.next u = some s') : s'.Follows (cs ++ u.call?.toList) := by
  cases s with
  | unused =>
      rcases u with (_ | _ | _) | _ <;> simp [Stage.next] at hn
      subst hn
      simp only [Follows] at h ⊢
      subst h
      rfl
  | acquiring =>
      rcases u with (_ | p | _) | _ <;> simp [Stage.next] at hn <;> subst hn <;>
        simp only [Follows] at h ⊢ <;> subst h
      · exact ⟨p, rfl⟩
      · exact .inl rfl
      · rfl
  | joined =>
      rcases u with (_ | _ | _) | _ <;> simp [Stage.next] at hn <;> subst hn <;>
        simp only [Follows] at h ⊢ <;> obtain ⟨p, rfl⟩ := h
      · exact .inr ⟨p, rfl⟩
      · exact ⟨p, rfl⟩
  | left => simp [Stage.next] at hn

theorem Follows.run {s s' : Stage} {cs : List Call} {us : List Use} (h : s.Follows cs)
    (hrun : s.run us = some s') : s'.Follows (cs ++ callsOf us) := by
  induction us generalizing s cs with
  | nil =>
      simp only [run_nil, Option.some.injEq] at hrun
      subst hrun
      simpa using h
  | cons u us ih =>
      obtain ⟨s₁, h₁, hrun⟩ := Option.bind_eq_some_iff.1 hrun
      have hcalls : callsOf (u :: us) = u.call?.toList ++ callsOf us := by
        cases u <;> rfl
      rw [hcalls, ← List.append_assoc]
      exact ih (h.next h₁) hrun

end Stage

def stage (id : SessionId) (tr : List Contact) : Option Stage := Stage.unused.run (uses id tr)

section Stages

variable {tr new : List Contact} {id : SessionId}

theorem stage_append : stage id (tr ++ new) = (stage id tr).bind (·.run (uses id new)) := by
  simp [stage]

theorem stage_append_of_uses (h : uses id new = []) : stage id (tr ++ new) = stage id tr := by
  simp [stage_append, h]

theorem uses_ne_nil_of_stage {s : Stage} (h : stage id tr = some s) (hs : s ≠ .unused) :
    uses id tr ≠ [] := fun hu => by
  simp only [stage, hu, Stage.run_nil, Option.some.injEq] at h
  exact hs h.symm

end Stages

/-! ### Joins follow the devices -/

/-- Every join is begun right after a poll that found the call in progress finished well, and that
call is the devices call of the same session, the last call begun before the join. -/
def JoinsAfterDevices (tr : List Contact) : Prop :=
  ∀ pre id p post, tr = pre ++ .begin id (.join p) :: post →
    pre.getLast? = some (.poll (.ready (.ok ()))) ∧ lastBegun pre = some (id, .devices)

namespace JoinsAfterDevices

variable {tr new : List Contact}

theorem nil : JoinsAfterDevices [] := fun pre _ _ _ h => by simp at h

theorem append (h : JoinsAfterDevices tr) (hnew : ∀ id p, .begin id (.join p) ∉ new) :
    JoinsAfterDevices (tr ++ new) := by
  intro pre id p post heq
  rcases List.append_eq_append_iff.1 heq with ⟨a', rfl, hnew'⟩ | ⟨c', htr, hpost⟩
  · exact absurd (hnew' ▸ List.mem_append_right _ List.mem_cons_self) (hnew id p)
  · cases c' with
    | nil =>
        simp only [List.nil_append] at hpost
        exact absurd (hpost ▸ List.mem_cons_self) (hnew id p)
    | cons y c'' =>
        simp only [List.cons_append, List.cons.injEq] at hpost
        obtain ⟨rfl, -⟩ := hpost
        exact h pre id p c'' htr

theorem join {id : SessionId} (h : JoinsAfterDevices tr)
    (hpoll : tr.getLast? = some (.poll (.ready (.ok ()))))
    (hb : lastBegun tr = some (id, .devices)) (p : ConnectParams) :
    JoinsAfterDevices (tr ++ [.begin id (.join p)]) := by
  intro pre id' p' post heq
  rcases List.append_eq_append_iff.1 heq with ⟨a', rfl, hnew⟩ | ⟨c', htr, hpost⟩
  · -- the join is the new one, so it comes right after the whole trace
    cases a' with
    | nil =>
        simp only [List.nil_append, List.cons.injEq, Contact.begin.injEq, Call.join.injEq] at hnew
        obtain ⟨⟨rfl, -⟩, -⟩ := hnew
        simpa using ⟨hpoll, hb⟩
    | cons y a'' => simp at hnew
  · cases c' with
    | nil =>
        simp only [List.nil_append, List.cons.injEq, Contact.begin.injEq, Call.join.injEq] at hpost
        obtain ⟨⟨rfl, -⟩, -⟩ := hpost
        simp only [List.append_nil] at htr
        subst htr
        exact ⟨hpoll, hb⟩
    | cons y c'' =>
        simp only [List.cons_append, List.cons.injEq] at hpost
        obtain ⟨rfl, -⟩ := hpost
        exact h pre id' p' c'' htr

end JoinsAfterDevices

/-! ### The invariant -/

/-- The session that ended last, the `n`-th, had its transport asked to disconnect exactly when it
did not end remotely, if the factory made its transport at all. -/
def EndsAs (reason : SessionEnd) (n : Nat) (tr : List Contact) : Prop :=
  Contact.create ⟨n - 1⟩ (.ok ()) ∈ tr → (Use.call .leave ∈ uses ⟨n - 1⟩ tr ↔ reason ≠ .remote)

/-- What the transports have been asked, for a controller with the session slot `session`, awaiting
`waiting`, having started `started` sessions, the last of which ended as `lastEnd`. -/
structure Lifecycle (session : Option Active) (waiting : Option Waiting) (started : Nat)
    (lastEnd : Option SessionEnd) (tr : List Contact) : Prop where
  /-- The transport of a session not started yet is untouched. -/
  unstarted : ∀ id, started ≤ id.index → uses id tr = []
  /-- A transport is used exactly when the factory made it. -/
  created : ∀ id, Contact.create id (.ok ()) ∈ tr ↔ uses id tr ≠ []
  /-- Every transport's uses follow its lifecycle. -/
  lawful : ∀ id, stage id tr ≠ none
  /-- The session present is the last one started. -/
  latest : ∀ a, session = some a → a.id.index + 1 = started
  /-- The transport of the session present has been asked for its devices, and asked to
  disconnect exactly when the session is tombstoned. -/
  present : ∀ a, session = some a →
    ∃ s, stage a.id tr = some s ∧ s ≠ .unused ∧ (s = .left ↔ a.tombstoned = true)
  /-- A tombstoned session awaits its transport's disconnect. -/
  tombstoned : ∀ a, session = some a → a.tombstoned = true →
    ∃ reason after, waiting = some (.leaving a.id reason after)
  /-- A connect awaiting the devices asked for them last. -/
  acquiring : ∀ id, waiting = some (.devices id) →
    stage id tr = some .acquiring ∧ lastBegun tr = some (id, .devices)
  /-- A teardown is awaited only for the tombstoned session present, and never for a session
  that ended remotely. -/
  leaving : ∀ id reason after, waiting = some (.leaving id reason after) →
    session = some ⟨id, true⟩ ∧ reason ≠ .remote
  /-- With no session present, the one that ended last was asked to disconnect exactly when its
  end was not remote. -/
  ended : session = none → ∀ reason, lastEnd = some reason → EndsAs reason started tr
  /-- Every join follows its session's devices call finishing well. -/
  joins : JoinsAfterDevices tr

def Calls (c : Controller) (tr : List Contact) : Prop :=
  Lifecycle c.session c.waiting c.started c.view.lastEnd tr

namespace Lifecycle

variable {S : Option Active} {W : Option Waiting} {n : Nat} {E : Option SessionEnd}
  {tr new : List Contact}

theorem init (S : Option Active) (W : Option Waiting) (E : Option SessionEnd)
    (hS : S = none) (hW : W = none) (hE : E = none) : Lifecycle S W 0 E [] where
  unstarted := fun _ _ => rfl
  created := fun _ => by simp
  lawful := fun _ => by simp [stage]
  latest := fun _ h => by simp [hS] at h
  present := fun _ h => by simp [hS] at h
  tombstoned := fun _ h => by simp [hS] at h
  acquiring := fun _ h => by simp [hW] at h
  leaving := fun _ _ _ h => by simp [hW] at h
  ended := fun _ _ h => by simp [hE] at h
  joins := .nil

theorem live_stage (h : Lifecycle S W n E tr) {a : Active} (hS : S = some a)
    (hlive : a.tombstoned = false) :
    stage a.id tr = some .acquiring ∨ stage a.id tr = some .joined := by
  obtain ⟨s, hs, hne, hleft⟩ := h.present a hS
  rw [hs]
  cases s <;> simp_all

theorem append_silent (h : Lifecycle S W n E tr) (hnew : ∀ x ∈ new, x.Silent) :
    Lifecycle S W n E (tr ++ new) := by
  have hu : ∀ id, uses id (tr ++ new) = uses id tr := fun id => by simp [uses_silent hnew]
  have hs : ∀ id, stage id (tr ++ new) = stage id tr := fun id => by simp [stage, hu]
  have hc : ∀ id, Contact.create id (.ok ()) ∈ tr ++ new ↔ Contact.create id (.ok ()) ∈ tr :=
    fun id => ⟨fun hm => (List.mem_append.1 hm).resolve_right fun hx => (hnew _ hx).2.2 id rfl,
      List.mem_append_left _⟩
  have hb : lastBegun (tr ++ new) = lastBegun tr := lastBegun_append fun x hx => (hnew x hx).2.1
  exact
    { unstarted := fun id hid => (hu id).trans (h.unstarted id hid)
      created := fun id => by rw [hc, hu]; exact h.created id
      lawful := fun id => by rw [hs]; exact h.lawful id
      latest := h.latest
      present := fun a ha => by rw [hs]; exact h.present a ha
      tombstoned := h.tombstoned
      acquiring := fun id hw => by rw [hs, hb]; exact h.acquiring id hw
      leaving := h.leaving
      ended := fun hS reason hE hc' => by
        rw [hu]
        exact h.ended hS reason hE ((hc _).1 hc')
      joins := h.joins.append fun id p hx => by simpa [Contact.begun?] using (hnew _ hx).2.1 }

theorem of_append_silent (h : Lifecycle S W n E (tr ++ new)) (hnew : ∀ x ∈ new, x.Silent) :
    Lifecycle S W n E tr := by
  have hu : ∀ id, uses id (tr ++ new) = uses id tr := fun id => by simp [uses_silent hnew]
  have hs : ∀ id, stage id (tr ++ new) = stage id tr := fun id => by simp [stage, hu]
  have hc : ∀ id, Contact.create id (.ok ()) ∈ tr ++ new ↔ Contact.create id (.ok ()) ∈ tr :=
    fun id => ⟨fun hm => (List.mem_append.1 hm).resolve_right fun hx => (hnew _ hx).2.2 id rfl,
      List.mem_append_left _⟩
  have hb : lastBegun (tr ++ new) = lastBegun tr := lastBegun_append fun x hx => (hnew x hx).2.1
  exact
    { unstarted := fun id hid => (hu id).symm.trans (h.unstarted id hid)
      created := fun id => by rw [← hc, ← hu]; exact h.created id
      lawful := fun id => by rw [← hs]; exact h.lawful id
      latest := h.latest
      present := fun a ha => by rw [← hs]; exact h.present a ha
      tombstoned := h.tombstoned
      acquiring := fun id hw => by rw [← hs, ← hb]; exact h.acquiring id hw
      leaving := h.leaving
      ended := fun hS reason hE hc' => by
        rw [← hu]
        exact h.ended hS reason hE ((hc _).2 hc')
      joins := fun pre id p post heq => h.joins pre id p (post ++ new) (by simp [heq]) }

@[simp] theorem append_silent_iff (hnew : ∀ x ∈ new, x.Silent) :
    Lifecycle S W n E (tr ++ new) ↔ Lifecycle S W n E tr :=
  ⟨fun h => h.of_append_silent hnew, fun h => h.append_silent hnew⟩

@[simp] theorem append_silent_one {x : Contact} (hx : x.Silent) :
    Lifecycle S W n E (tr ++ [x]) ↔ Lifecycle S W n E tr :=
  append_silent_iff (by simpa using hx)

@[simp] theorem append_sinks (ops : List SinkOp) :
    Lifecycle S W n E (tr ++ ops.map .sink) ↔ Lifecycle S W n E tr :=
  append_silent_iff (by simp)

@[simp] theorem append_replies (rs : List RequestId) (st : ConnectionState) :
    Lifecycle S W n E (tr ++ rs.map fun r => .reply r st) ↔ Lifecycle S W n E tr :=
  append_silent_iff (by simp)

/-- Asking the live session's transport for its tracks keeps the invariant: its stage does not
move. -/
theorem tracks (h : Lifecycle S W n E tr) {a : Active} (hS : S = some a)
    (hlive : a.tombstoned = false) : Lifecycle S W n E (tr ++ [.tracks a.id]) := by
  have hs : ∀ id, stage id (tr ++ [.tracks a.id]) = stage id tr := by
    intro id
    by_cases hid : a.id = id
    · subst hid
      rcases h.live_stage hS hlive with hst | hst <;> simp [stage_append, hst]
    · exact stage_append_of_uses (by simp [hid])
  have hu : ∀ id, uses id (tr ++ [.tracks a.id]) ≠ [] ↔ uses id tr ≠ [] := by
    intro id
    by_cases hid : a.id = id
    · subst hid
      obtain ⟨s, hst, hne, -⟩ := h.present a hS
      simp [uses_ne_nil_of_stage hst hne]
    · simp [hid]
  have hlatest := h.latest a hS
  exact
    { unstarted := fun id hid => by
        have hne : a.id ≠ id := fun he => by subst he; omega
        simp [hne, h.unstarted id hid]
      created := fun id => by
        have hc : Contact.create id (.ok ()) ∈ tr ++ [.tracks a.id] ↔
            Contact.create id (.ok ()) ∈ tr := by simp
        rw [hc, hu]
        exact h.created id
      lawful := fun id => by rw [hs]; exact h.lawful id
      latest := h.latest
      present := fun a' ha' => by rw [hs]; exact h.present a' ha'
      tombstoned := h.tombstoned
      acquiring := fun id hw => by
        rw [hs, lastBegun_append (by simp [Contact.begun?])]
        exact h.acquiring id hw
      leaving := h.leaving
      ended := fun hS' => by simp [hS] at hS'
      joins := h.joins.append (by simp) }

/-- A connect with no session present: the factory makes the transport of the next session,
whose devices are asked for at once. -/
theorem connect (h : Lifecycle none W n E tr) :
    Lifecycle (some { id := ⟨n⟩ }) (some (.devices ⟨n⟩)) (n + 1) none
      (tr ++ [.create ⟨n⟩ (.ok ()), .begin ⟨n⟩ .devices]) := by
  have hfresh : uses ⟨n⟩ tr = [] := h.unstarted ⟨n⟩ (Nat.le_refl n)
  have hnew : stage ⟨n⟩ (tr ++ [.create ⟨n⟩ (.ok ()), .begin ⟨n⟩ .devices]) = some .acquiring := by
    simp [stage, hfresh, uses_cons, Contact.useOf, Stage.next]
  have hother : ∀ id, id ≠ ⟨n⟩ →
      uses id (tr ++ [.create ⟨n⟩ (.ok ()), .begin ⟨n⟩ .devices]) = uses id tr := fun id hid => by
    simp [Ne.symm hid, uses, Contact.useOf]
  exact
    { unstarted := fun id hid => by
        have hne : id ≠ ⟨n⟩ := fun he => by subst he; exact Nat.lt_irrefl n hid
        rw [hother id hne]
        exact h.unstarted id (by omega)
      created := fun id => by
        by_cases hid : id = ⟨n⟩
        · subst hid
          simp [uses, Contact.useOf]
        · have hc : Contact.create id (.ok ()) ∈ tr ++ [.create ⟨n⟩ (.ok ()), .begin ⟨n⟩ .devices] ↔
              Contact.create id (.ok ()) ∈ tr := by simp [hid]
          rw [hc, hother id hid]
          exact h.created id
      lawful := fun id => by
        by_cases hid : id = ⟨n⟩
        · subst hid
          simp [hnew]
        · rw [stage, hother id hid]
          exact h.lawful id
      latest := fun a ha => by
        cases ha
        rfl
      present := fun a ha => by
        cases ha
        exact ⟨.acquiring, hnew, by decide, by simp⟩
      tombstoned := fun a ha ht => by
        cases ha
        cases ht
      acquiring := fun id hw => by
        cases hw
        refine ⟨hnew, ?_⟩
        rw [show tr ++ [.create ⟨n⟩ (.ok ()), .begin ⟨n⟩ .devices] =
          tr ++ [.create ⟨n⟩ (.ok ())] ++ [.begin ⟨n⟩ .devices] by simp, lastBegun_append_begin]
      leaving := fun _ _ _ hw => by cases hw
      ended := fun hS => by cases hS
      joins := h.joins.append fun id p hx => by simp at hx }

/-- A connect whose transport the factory refused: one more session has started, with no end
recorded yet, and no transport is used. -/
theorem createError (h : Lifecycle none W n E tr) (e : String) :
    Lifecycle none W (n + 1) none (tr ++ [.create ⟨n⟩ (.error e)]) := by
  have h' : Lifecycle none W n E (tr ++ [.create ⟨n⟩ (.error e)]) := h.append_silent (by simp)
  exact
    { unstarted := fun id hid => h'.unstarted id (by omega)
      created := h'.created
      lawful := h'.lawful
      latest := fun _ ha => by cases ha
      present := fun _ ha => by cases ha
      tombstoned := fun _ ha => by cases ha
      acquiring := h'.acquiring
      leaving := h'.leaving
      ended := fun _ _ hE => by cases hE
      joins := h'.joins }

/-- The live session's transport is asked to establish the session once its devices call,
awaited and begun last, finished well. -/
theorem join (h : Lifecycle S W n E tr) {a : Active} (hS : S = some a)
    (hlive : a.tombstoned = false) (hW : W = some (.devices a.id))
    (hpoll : tr.getLast? = some (.poll (.ready (.ok ())))) (p : ConnectParams) :
    Lifecycle S (some (.joining a.id)) n E (tr ++ [.begin a.id (.join p)]) := by
  obtain ⟨hacq, hb⟩ := h.acquiring a.id hW
  have hjoined : stage a.id (tr ++ [.begin a.id (.join p)]) = some .joined := by
    simp [stage_append, hacq, Stage.next]
  have hother : ∀ id, a.id ≠ id → uses id (tr ++ [.begin a.id (.join p)]) = uses id tr :=
    fun id hid => by simp [hid]
  have hlatest := h.latest a hS
  exact
    { unstarted := fun id hid => by
        have hne : a.id ≠ id := fun he => by subst he; omega
        rw [hother id hne]
        exact h.unstarted id hid
      created := fun id => by
        by_cases hid : a.id = id
        · subst hid
          have hused : uses a.id tr ≠ [] := uses_ne_nil_of_stage hacq (by decide)
          simpa using (h.created a.id).2 hused
        · rw [hother id hid]
          simpa using h.created id
      lawful := fun id => by
        by_cases hid : a.id = id
        · subst hid
          simp [hjoined]
        · simpa [stage, hother id hid] using h.lawful id
      latest := h.latest
      present := fun a' ha' => by
        rw [hS] at ha'
        cases ha'
        exact ⟨.joined, hjoined, by decide, by simp [hlive]⟩
      tombstoned := fun a' ha' ht => by
        rw [hS] at ha'
        cases ha'
        simp [hlive] at ht
      acquiring := fun _ hw => by cases hw
      leaving := fun _ _ _ hw => by cases hw
      ended := fun hS' => by simp [hS] at hS'
      joins := h.joins.join hpoll hb p }

/-- A teardown of the live session present tombstones it and asks its transport, once, to
disconnect. -/
theorem leave (h : Lifecycle S W n E tr) {a : Active} (hS : S = some a)
    (hlive : a.tombstoned = false) {reason : SessionEnd} (hr : reason ≠ .remote)
    (after : AfterLeave) :
    Lifecycle (some { a with tombstoned := true }) (some (.leaving a.id reason after)) n E
      (tr ++ [.begin a.id .leave]) := by
  have hleft : stage a.id (tr ++ [.begin a.id .leave]) = some .left := by
    rcases h.live_stage hS hlive with hst | hst <;> simp [stage_append, hst, Stage.next]
  have hother : ∀ id, a.id ≠ id → uses id (tr ++ [.begin a.id .leave]) = uses id tr :=
    fun id hid => by simp [hid]
  have hlatest := h.latest a hS
  obtain ⟨s, hs, hne, -⟩ := h.present a hS
  exact
    { unstarted := fun id hid => by
        have hne : a.id ≠ id := fun he => by subst he; omega
        rw [hother id hne]
        exact h.unstarted id hid
      created := fun id => by
        by_cases hid : a.id = id
        · subst hid
          simpa using (h.created a.id).2 (uses_ne_nil_of_stage hs hne)
        · rw [hother id hid]
          simpa using h.created id
      lawful := fun id => by
        by_cases hid : a.id = id
        · subst hid
          simp [hleft]
        · simpa [stage, hother id hid] using h.lawful id
      latest := fun a' ha' => by
        cases ha'
        exact hlatest
      present := fun a' ha' => by
        cases ha'
        exact ⟨.left, hleft, by decide, by simp⟩
      tombstoned := fun a' ha' _ => by
        cases ha'
        exact ⟨reason, after, rfl⟩
      acquiring := fun _ hw => by cases hw
      leaving := fun _ _ _ hw => by
        cases hw
        exact ⟨rfl, hr⟩
      ended := fun hS' => by cases hS'
      joins := h.joins.append fun id p hx => by simp at hx }

/-- With a session present, the end it is released with is right for it exactly when it is
tombstoned unless the end is remote. -/
theorem endsAs_of_present (h : Lifecycle S W n E tr) {a : Active} (hS : S = some a)
    {reason : SessionEnd} (ht : a.tombstoned = true ↔ reason ≠ .remote) : EndsAs reason n tr := by
  intro _
  have hid : (⟨n - 1⟩ : SessionId) = a.id := by
    have hl := h.latest a hS
    subst hl
    simp
  obtain ⟨s, hs, -, hleft⟩ := h.present a hS
  rw [hid, Stage.leave_mem_iff (by decide) hs, hleft, ht]

theorem endsAs_of_unused (h : Lifecycle S W n E tr) (hu : uses ⟨n - 1⟩ tr = [])
    (reason : SessionEnd) : EndsAs reason n tr :=
  fun hc => absurd hu ((h.created _).1 hc)

/-- Releasing the session present, or with none present, records how it ended; no transport is
called. What is awaited afterwards is what was awaited, or nothing. -/
theorem release (h : Lifecycle S W n E tr) {reason : SessionEnd} (hends : EndsAs reason n tr)
    {W' : Option Waiting} (hacq : ∀ id, W' = some (.devices id) → W = some (.devices id))
    (hleave : ∀ i r af, W' ≠ some (.leaving i r af)) : Lifecycle none W' n (some reason) tr where
  unstarted := h.unstarted
  created := h.created
  lawful := h.lawful
  latest := fun _ ha => by cases ha
  present := fun _ ha => by cases ha
  tombstoned := fun _ ha => by cases ha
  acquiring := fun id hw => h.acquiring id (hacq id hw)
  leaving := fun i r af hw => absurd hw (hleave i r af)
  ended := fun _ r hr => by
    cases hr
    exact hends
  joins := h.joins

theorem untombstoned (h : Lifecycle S W n E tr) (hW : ∀ i r af, W ≠ some (.leaving i r af)) :
    ∀ a, S = some a → a.tombstoned = false := fun a ha => by
  cases ht : a.tombstoned with
  | false => rfl
  | true =>
      obtain ⟨r, af, hw⟩ := h.tombstoned a ha ht
      exact absurd hw (hW _ r af)

theorem stop (h : Lifecycle S W n E tr) (hS : ∀ a, S = some a → a.tombstoned = false) :
    Lifecycle S none n E tr :=
  { h with
    tombstoned := fun a ha ht => by simp [hS a ha] at ht
    acquiring := fun _ hw => by cases hw
    leaving := fun _ _ _ hw => by cases hw }

end Lifecycle

/-! ### The frame of an operation -/

/-- The frame of an operation that began with the controller `c₀` and the trace `tr₀`, now at the
session slot `session`, with `started` sessions started and the trace `tr`: only the transports of
sessions live in `c₀`, or started since, were used, and every live session was live in `c₀` or
started since. -/
structure Since (c₀ : Controller) (tr₀ : List Contact) (session : Option Active) (started : Nat)
    (tr : List Contact) : Prop where
  started_le : c₀.started ≤ started
  used : ∀ id, uses id tr ≠ uses id tr₀ → c₀.isLive id = true ∨ c₀.started ≤ id.index
  live : ∀ a, session = some a → a.tombstoned = false →
    c₀.isLive a.id = true ∨ c₀.started ≤ a.id.index

namespace Since

variable {c₀ : Controller} {tr₀ tr new : List Contact} {S : Option Active} {n : Nat}

theorem refl (c : Controller) (tr : List Contact) : Since c tr c.session c.started tr where
  started_le := Nat.le_refl _
  used := fun _ h => absurd rfl h
  live := fun a ha ht => .inl (Controller.isLive_iff.2 ⟨a, ha, rfl, ht⟩)

theorem append (h : Since c₀ tr₀ S n tr)
    (hnew : ∀ id, uses id new ≠ [] → ∃ a, S = some a ∧ a.id = id ∧ a.tombstoned = false) :
    Since c₀ tr₀ S n (tr ++ new) where
  started_le := h.started_le
  used := fun id hid => by
    by_cases hu : uses id new = []
    · exact h.used id (by simpa [hu] using hid)
    · obtain ⟨a, ha, rfl, ht⟩ := hnew id hu
      exact h.live a ha ht
  live := h.live

theorem silent (h : Since c₀ tr₀ S n tr) (hnew : ∀ x ∈ new, x.Silent) :
    Since c₀ tr₀ S n (tr ++ new) :=
  h.append fun _ hu => absurd (uses_silent hnew) hu

@[simp] theorem append_silent_iff (hnew : ∀ x ∈ new, x.Silent) :
    Since c₀ tr₀ S n (tr ++ new) ↔ Since c₀ tr₀ S n tr := by
  have hu : ∀ id, uses id (tr ++ new) = uses id tr := fun id => by simp [uses_silent hnew]
  constructor
  · intro h
    exact ⟨h.started_le, fun id hid => h.used id (by rwa [hu]), h.live⟩
  · exact fun h => h.silent hnew

@[simp] theorem append_silent_one {x : Contact} (hx : x.Silent) :
    Since c₀ tr₀ S n (tr ++ [x]) ↔ Since c₀ tr₀ S n tr :=
  append_silent_iff (by simpa using hx)

@[simp] theorem append_sinks (ops : List SinkOp) :
    Since c₀ tr₀ S n (tr ++ ops.map .sink) ↔ Since c₀ tr₀ S n tr :=
  append_silent_iff (by simp)

@[simp] theorem append_replies (rs : List RequestId) (st : ConnectionState) :
    Since c₀ tr₀ S n (tr ++ rs.map fun r => .reply r st) ↔ Since c₀ tr₀ S n tr :=
  append_silent_iff (by simp)

theorem tracks (h : Since c₀ tr₀ S n tr) {a : Active} (hS : S = some a)
    (hlive : a.tombstoned = false) : Since c₀ tr₀ S n (tr ++ [.tracks a.id]) :=
  h.append fun id hu => ⟨a, hS, by by_cases hid : a.id = id <;> simp_all, hlive⟩

theorem begin (h : Since c₀ tr₀ S n tr) {a : Active} (hS : S = some a)
    (hlive : a.tombstoned = false) (call : Call) : Since c₀ tr₀ S n (tr ++ [.begin a.id call]) :=
  h.append fun id hu => ⟨a, hS, by by_cases hid : a.id = id <;> simp_all, hlive⟩

theorem retire (h : Since c₀ tr₀ S n tr) {S' : Option Active}
    (hS : ∀ a, S' = some a → a.tombstoned = false → S = some a) : Since c₀ tr₀ S' n tr where
  started_le := h.started_le
  used := h.used
  live := fun a ha ht => h.live a (hS a ha ht) ht

theorem start (h : Since c₀ tr₀ S n tr) : Since c₀ tr₀ (some { id := ⟨n⟩ }) (n + 1) tr where
  started_le := Nat.le_succ_of_le h.started_le
  used := h.used
  live := fun a ha _ => by
    cases ha
    exact .inr h.started_le

end Since

/-- The controller `c`, with the trace kept in the world state `p`, keeps the invariant, and since
the controller `c₀` and the trace `tr₀` it has used only the transports of sessions live then or
started since. -/
def Tends {σ : Type} (c₀ : Controller) (tr₀ : List Contact) (c : Controller)
    (p : σ × List Contact) : Prop :=
  Calls c p.2 ∧ Since c₀ tr₀ c.session c.started p.2

/-! ### Every operation keeps the calls in their lifecycle -/

namespace Ctl

open Controller

variable {σ : Type} (w : World σ) (c₀ : Controller) (tr₀ : List Contact)

/-- Releasing the session calls no transport; it keeps the invariant when the end it records is
the right one for the session, and what is awaited, `c.waiting`, was awaited when the invariant
held with `W`. -/
theorem releaseSession_tends (reason : SessionEnd) (c₁ : Controller) (W : Option Waiting) :
    Triple (fun c p => c = c₁ ∧ Lifecycle c.session W c.started c.view.lastEnd p.2 ∧
        Since c₀ tr₀ c.session c.started p.2 ∧ EndsAs reason c.started p.2 ∧
        (∀ id, c.waiting = some (.devices id) → W = some (.devices id)) ∧
        ∀ i r af, c.waiting ≠ some (.leaving i r af))
      (releaseSession w.recorded reason)
      (fun _ c p => Tends c₀ tr₀ c p ∧ c.session = none ∧ c.waiting = c₁.waiting ∧
        c.view.lastEnd = some reason) := by
  rintro c ⟨s, tr⟩ ⟨rfl, h, hs, hends, hacq, hleave⟩
  simp only [releaseSession, wp_bind, wp_modify, wp_useBinder, wp_modifyView, wp_setState,
    wp_notifyWaiters, World.recorded_sink, World.recorded_reply, World.forM_noting, Tends, Calls,
    Lifecycle.append_sinks, Lifecycle.append_replies, Since.append_sinks, Since.append_replies]
  exact ⟨⟨h.release hends hacq hleave, hs.retire fun _ ha => by cases ha⟩, trivial, trivial, trivial⟩

/-- A dispatch keeps the invariant and what is awaited: it asks only the transport of the live
session the event belongs to for its tracks, or releases that session as ended remotely, calling
nothing. -/
theorem dispatch_tends (e : Envelope) (c₁ : Controller) :
    Triple (fun c p => c = c₁ ∧ Tends c₀ tr₀ c p) (dispatch w.recorded e)
      (fun _ c p => Tends c₀ tr₀ c p ∧ c.waiting = c₁.waiting) := by
  rintro c ⟨s, tr⟩ ⟨rfl, h, hs⟩
  simp only [dispatch, wp_bind, wp_isLive]
  cases hlive : c.isLive e.session
  · simpa using ⟨h, hs⟩
  obtain ⟨a, ha, hid, htomb⟩ := isLive_iff.1 hlive
  obtain ⟨id, ev⟩ := e
  simp only at hid
  subst hid
  -- the only transport used is the live session's, asked for its tracks
  have htracks : Lifecycle c.session c.waiting c.started c.view.lastEnd (tr ++ [.tracks a.id]) ∧
      Since c₀ tr₀ c.session c.started (tr ++ [.tracks a.id]) :=
    ⟨h.tracks ha htomb, hs.tracks ha htomb⟩
  cases ev
  case disconnected =>
    simp only [Bool.not_true, Bool.false_eq_true, if_false, wp_bind, wp_modify]
    refine (releaseSession_tends w c₀ tr₀ .remote _ c.waiting).wp
      ⟨rfl, h, hs, h.endsAs_of_present ha (by simp [htomb]), fun _ hw => hw, fun i r af hw => ?_⟩
      ?_
    · -- a live session is not awaiting its teardown
      obtain ⟨hs', -⟩ := h.leaving i r af hw
      rw [ha] at hs'
      cases hs'
      simp at htomb
    · rintro _ c' p' ⟨ht, -, hw, -⟩
      simp only [wp_bind, wp_setStatus, wp_publish]
      exact ⟨ht, hw⟩
  all_goals
    simp only [Bool.not_true, Bool.false_eq_true, if_false, wp_bind, wp_modify, wp_setState,
      wp_setStatus, wp_modifyView, wp_publish, wp_log, wp_useBinder, wp_reconcileTracks, wp_ite,
      World.recorded_tracks, World.recorded_sink, World.forM_noting, World.noting_run, Tends, Calls,
      Lifecycle.append_sinks, Since.append_sinks, ite_self, and_true]
  case transportStateChanged st =>
    split
    · exact htracks
    · exact ⟨h, hs⟩
  case botReady data => exact htracks
  all_goals exact ⟨h, hs⟩

theorem processPending_tends (c₁ : Controller) :
    Triple (fun c p => c = c₁ ∧ Tends c₀ tr₀ c p) (processPending w.recorded)
      (fun _ c p => Tends c₀ tr₀ c p ∧ c.waiting = c₁.waiting) := by
  rintro c p ⟨rfl, h⟩
  simp only [processPending, wp_bind, wp_get, wp_modify]
  have hstep : ∀ e ∈ c.inbox, Triple (fun c' p' => Tends c₀ tr₀ c' p' ∧ c'.waiting = c.waiting)
      (dispatch w.recorded e) (fun _ c' p' => Tends c₀ tr₀ c' p' ∧ c'.waiting = c.waiting) :=
    fun e _ c' p' h' => (dispatch_tends w c₀ tr₀ e c').wp ⟨rfl, h'.1⟩ fun _ _ _ h'' =>
      h''.imp_right fun hw' => hw'.trans h'.2
  exact (Triple.forIn hstep).wp ⟨h, rfl⟩ fun _ _ _ h => h

/-- What follows a teardown, once the session is released, calls no transport and stops
waiting. -/
theorem afterLeave_tends (after : AfterLeave) :
    Triple (fun c p => Tends c₀ tr₀ c p ∧ c.session = none) (afterLeave w.recorded after)
      (fun _ c p => Tends c₀ tr₀ c p ∧ c.waiting = none) := by
  rintro c p ⟨⟨h, hs⟩, hnone⟩
  refine (afterLeave_of_no_session w.recorded after c p).wp ⟨rfl, rfl, hnone⟩ ?_
  rintro _ c' p' ⟨-, hw, -, hs', hst, hend, rfl⟩
  have hstop := h.stop fun a ha => by simp [hnone] at ha
  refine ⟨⟨?_, ?_⟩, hw⟩
  · simpa only [Calls, hs', hnone, hw, hst, hend] using hstop
  · simpa only [hs', hnone, hst] using hs

/-- A teardown keeps the invariant: a live session present is tombstoned and its transport asked
to disconnect; with none present, the end it records is right for the last session. -/
theorem teardown_tends (reason : SessionEnd) (after : AfterLeave) :
    Triple (fun c p => Tends c₀ tr₀ c p ∧ reason ≠ .remote ∧
        (∀ a, c.session = some a → a.tombstoned = false) ∧
        (c.session = none → EndsAs reason c.started p.2))
      (teardown w.recorded reason after) (fun _ c p => Tends c₀ tr₀ c p) := by
  rintro c ⟨s, tr⟩ ⟨⟨h, hs⟩, hr, hlive, hends⟩
  simp only [teardown, wp_bind, wp_get]
  cases ha : c.session with
  | none =>
      simp only [wp_bind]
      refine (releaseSession_tends w c₀ tr₀ reason c c.waiting).wp
        ⟨rfl, h, hs, hends ha, fun _ hw => hw, fun i r af hw => ?_⟩
        fun _ c' p' h' => (afterLeave_tends w c₀ tr₀ after).wp ⟨h'.1, h'.2.1⟩ fun _ _ _ h => h.1
      -- a teardown is awaited only with a session present
      obtain ⟨hs', -⟩ := h.leaving i r af hw
      simp [ha] at hs'
  | some a =>
      have ht := hlive a ha
      simp only [wp_bind, wp_modify, wp_await, World.recorded_begin, World.noting_run, Tends, Calls]
      refine ⟨h.leave ha ht hr after, ?_⟩
      exact (hs.begin ha ht .leave).retire fun a' ha' ht' => by
        cases ha'
        simp at ht'

theorem failConnect_tends (f : Failure) :
    Triple (fun c p => Tends c₀ tr₀ c p ∧ (∀ a, c.session = some a → a.tombstoned = false) ∧
        (c.session = none → EndsAs .connectFailed c.started p.2))
      (failConnect w.recorded f) (fun _ c p => Tends c₀ tr₀ c p) := by
  rintro c p ⟨h, hlive, hends⟩
  simp only [failConnect, wp_bind, wp_log, wp_setState, wp_setStatus]
  exact (teardown_tends w c₀ tr₀ .connectFailed .failedConnect).wp
    ⟨h, by decide, hlive, hends⟩ fun _ _ _ h => h

/-- A disconnect keeps the invariant: with no session it only answers the waiting requests, and
otherwise it tears the live session down. -/
theorem disconnect_tends :
    Triple (fun c p => Tends c₀ tr₀ c p ∧ (c.session = none → c.view.connection = .idle) ∧
        ∀ a, c.session = some a → a.tombstoned = false)
      (disconnect w.recorded) (fun _ c p => Tends c₀ tr₀ c p) := by
  rintro c ⟨s, tr⟩ ⟨⟨h, hs⟩, hidle, hlive⟩
  simp only [disconnect, wp_bind, wp_get]
  split
  · rename_i hcase
    simp only [Bool.and_eq_true, beq_iff_eq, Controller.state, Option.isNone_iff_eq_none] at hcase
    simp only [wp_bind, wp_notifyWaiters, World.recorded_reply, World.forM_noting, wp_finish, Tends,
      Calls, Lifecycle.append_replies, Since.append_replies]
    exact ⟨h.stop fun a ha => by simp [hcase.2] at ha, hs⟩
  · rename_i hcase
    simp only [wp_bind, wp_setState]
    refine (teardown_tends w c₀ tr₀ .requested .disconnect).wp
      ⟨⟨h, hs⟩, by decide, hlive, fun hnone => ?_⟩ fun _ _ _ h => h
    -- with no session the controller is idle, and the disconnect only answers
    simp only at hnone
    simp [Controller.state, hnone, hidle hnone] at hcase

/-- A connect keeps the invariant: from idle, with no session, the factory is asked for the
transport of the next session, whose devices are then asked for; a refused transport is torn
down as a failed connect, with no transport to call. -/
theorem connect_tends :
    Triple (fun c p => Tends c₀ tr₀ c p ∧ (c.view.connection = .idle → c.session = none))
      (connect w.recorded) (fun _ c p => Tends c₀ tr₀ c p) := by
  rintro c ⟨s, tr⟩ ⟨⟨h, hs⟩, hnone⟩
  by_cases hidle : c.view.connection = .idle
  · have hS : c.session = none := hnone hidle
    have hL : Lifecycle none c.waiting c.started c.view.lastEnd tr := hS ▸ h
    have hfresh : uses ⟨c.started⟩ tr = [] := h.unstarted _ (Nat.le_refl _)
    simp only [connect, wp_bind, wp_get, Controller.state, hidle, ConnectionState.canConnect,
      beq_self_eq_true, Bool.not_true, Bool.false_eq_true, if_false, wp_modify, wp_modifyView,
      wp_setState, wp_lift, World.recorded_create, World.noting_run]
    split
    · -- the factory refused: no transport exists, and the failed connect is torn down
      rename_i e hcreate
      simp only [hcreate]
      refine (failConnect_tends w c₀ tr₀ _).wp ⟨⟨?_, ?_⟩, fun a ha => by simp [hS] at ha,
        fun _ => ?_⟩ fun _ _ _ h => h
      · simpa [Calls, hS] using hL.createError e
      · exact ⟨Nat.le_succ_of_le hs.started_le, fun id hid => hs.used id (by simpa using hid),
          fun a ha => by simp [hS] at ha⟩
      · refine (hL.createError e).endsAs_of_unused ?_ _
        simp [hfresh]
    · -- the session is new and live, and its devices are asked for
      rename_i hcreate
      simp only [hcreate, wp_bind, wp_modify, wp_modifyView, wp_publish, wp_await, World.recorded_begin,
        World.noting_run, Tends, Calls, Waiting.session, List.append_assoc, List.singleton_append]
      refine ⟨hL.connect, ?_⟩
      have hstart := (hS ▸ hs : Since c₀ tr₀ none c.started tr).start
      exact hstart.append fun id hu => ⟨_, rfl, by
        by_cases hid : (⟨c.started⟩ : SessionId) = id <;> simp_all [uses_cons, Contact.useOf], rfl⟩
  · rw [wp_connect_of_not_idle w.recorded hidle]
    exact ⟨h, hs⟩

theorem endedWhileConnecting_tends :
    Triple (fun c p => Tends c₀ tr₀ c p ∧ c.waiting = none) (endedWhileConnecting w.recorded)
      (fun _ c p => Tends c₀ tr₀ c p) := by
  rintro c p ⟨h, hw⟩
  simp only [endedWhileConnecting, wp_bind]
  refine (processPending_tends w c₀ tr₀ c).wp ⟨rfl, h⟩ ?_
  rintro _ c' p' ⟨⟨hc, hs⟩, hw'⟩
  simp only [wp_finish, Tends]
  exact ⟨by simpa only [Calls, hw'.trans hw] using hc, hs⟩

/-- Going on after the awaited call keeps the invariant: a connect whose devices call finished
well asks the live session's transport to establish the session, right after the poll that found
the call finished; a failure tears the live session down; a finished teardown releases the
session with the end it began for. -/
theorem resume_tends (wt : Waiting) (r : Except String Unit) :
    Triple (fun c p => Tends c₀ tr₀ c p ∧ c.waiting = some wt ∧
        p.2.getLast? = some (.poll (.ready r)))
      (resume w.recorded wt r) (fun _ c p => Tends c₀ tr₀ c p) := by
  rintro c ⟨s, tr⟩ ⟨⟨h, hs⟩, hwt, hpoll⟩
  simp only [resume, wp_bind, wp_modify]
  -- a connect's wait is for a session that is not tombstoned, and it can stop waiting
  have hconnect : ∀ id, wt.owner = some id →
      (∀ a, c.session = some a → a.tombstoned = false) ∧
        Tends c₀ tr₀ { c with waiting := none } (s, tr) := fun id hown => by
    have hno := h.untombstoned fun i r af hw => by
      rw [hwt] at hw
      cases hw
      cases hown
    exact ⟨hno, h.stop hno, hs⟩
  -- a failure of a connect's call tears a live session down, and otherwise the connect ends
  have hfailed : ∀ id, wt.owner = some id → ∀ f,
      wp (do if ← isLive id then failConnect w.recorded f else endedWhileConnecting w.recorded)
        (fun _ c p => Tends c₀ tr₀ c p) { c with waiting := none } (s, tr) := by
    intro id hown f
    obtain ⟨hno, hstopped⟩ := hconnect id hown
    simp only [wp_bind, wp_isLive]
    split
    · rename_i hlive
      obtain ⟨a, ha, -, -⟩ := isLive_iff.1 hlive
      exact (failConnect_tends w c₀ tr₀ f).wp ⟨hstopped, hno, fun hnone => by simp_all⟩
        fun _ _ _ h => h
    · exact (endedWhileConnecting_tends w c₀ tr₀).wp ⟨hstopped, rfl⟩ fun _ _ _ h => h
  rcases wt with id | id | ⟨id, reason, after⟩ <;> rcases r with e | ⟨⟩
  case devices.error => exact hfailed id rfl _
  case joining.error => exact hfailed id rfl _
  case devices.ok =>
    obtain ⟨hno, hstopped⟩ := hconnect id rfl
    simp only [wp_bind, wp_isLive]
    split
    · -- the devices are acquired and the session is still live: it is established
      rename_i hlive
      obtain ⟨a, ha, rfl, htomb⟩ := isLive_iff.1 hlive
      simp only [wp_bind, wp_get, wp_await, World.recorded_begin, World.noting_run, Tends, Calls,
        Waiting.session]
      exact ⟨h.join ha htomb hwt hpoll _, hs.begin ha htomb _⟩
    · exact (endedWhileConnecting_tends w c₀ tr₀).wp ⟨hstopped, rfl⟩ fun _ _ _ h => h
  case joining.ok =>
    obtain ⟨-, hstopped⟩ := hconnect id rfl
    simp only [wp_bind]
    refine (processPending_tends w c₀ tr₀ _).wp ⟨rfl, hstopped⟩ ?_
    rintro _ c' p' ⟨⟨hc, hs'⟩, hw'⟩
    simp only [wp_finish, Tends]
    exact ⟨by simpa only [Calls, hw'] using hc, hs'⟩
  all_goals
    -- the teardown is over: its session, tombstoned, is released with the end it began for
    obtain ⟨hS, hr⟩ := h.leaving id reason after hwt
    have hends : EndsAs reason c.started tr := h.endsAs_of_present hS (by simpa using hr)
    simp only [wp_bind, wp_log]
    refine (releaseSession_tends w c₀ tr₀ reason _ c.waiting).wp ⟨rfl, h, hs, hends, ?_, ?_⟩
      fun _ _ _ h' => (afterLeave_tends w c₀ tr₀ after).wp ⟨h'.1, h'.2.1⟩ fun _ _ _ h => h.1
    · intro _ hw
      simp at hw
    · intro _ _ _ hw
      simp at hw

/-- A turn of waiting keeps the invariant: the poll and the requests taken and answered use no
transport, and everything else is a dispatch, the resumption after the call, or a disconnect of
a connect's live session. -/
theorem turn_tends :
    Triple (fun c p => Tends c₀ tr₀ c p ∧ c.Waits) (turn w.recorded)
      (fun _ c p => Tends c₀ tr₀ c p) := by
  rintro c ⟨s, tr⟩ ⟨⟨h, hs⟩, hw⟩
  simp only [turn, wp_bind, wp_get]
  split
  · simp only [wp_bind, wp_state, wp_pure]
    exact ⟨h, hs⟩
  rename_i wt hwt
  simp only [wp_bind, wp_lift, World.recorded_poll, World.noting_run, wp_forIn_enqueue]
  have hpolled : ∀ (s' : σ) (x : Contact) (q : List Envelope), x.Silent →
      Tends c₀ tr₀ { c with inbox := q } (s', tr ++ [x]) := fun s' x q hx =>
    ⟨by simpa [Calls, hx] using h, by simpa [hx] using hs⟩
  split
  · -- the call finished: go on from it
    rename_i r hready
    simp only [wp_bind]
    exact (resume_tends w c₀ tr₀ wt _).wp ⟨hpolled _ _ _ (by simp), hwt, by simp [hready]⟩
      fun _ _ _ h => h
  simp only [wp_bind, wp_get]
  split
  · -- an event is queued: dispatch it, and stop a connect whose session it ended
    simp only [wp_bind, wp_modify]
    refine (dispatch_tends w c₀ tr₀ _ _).wp ⟨rfl, hpolled _ _ _ (by simp)⟩ ?_
    rintro _ c' p' ⟨⟨hc, hs'⟩, hwait⟩
    split
    · rename_i id hown
      simp only [wp_bind, wp_isLive]
      split
      · exact ⟨hc, hs'⟩
      · simp only [wp_bind, wp_modify]
        have hno := hc.untombstoned fun i r af hl => by
          rw [hwait, hwt] at hl
          cases hl
          cases hown
        exact (endedWhileConnecting_tends w c₀ tr₀).wp ⟨⟨hc.stop hno, hs'⟩, rfl⟩ fun _ _ _ h => h
    · exact ⟨hc, hs'⟩
  -- nothing is queued: take a request
  simp only [wp_bind, wp_lift, World.recorded_takeCommand, World.noting_run]
  have htaken := hpolled (w.takeCommand.run (w.poll.run s).2).2
  split
  · -- a connect request is answered at once
    rename_i r hcmd
    simp only [wp_bind, wp_state, wp_lift, World.recorded_reply, World.noting_run, wp_pure, hcmd]
    simpa [Tends, Calls] using ⟨h, hs⟩
  · -- a disconnect request waits; during a connect it abandons the connect and disconnects
    rename_i r hcmd
    simp only [wp_bind, wp_modify, hcmd]
    split
    · rename_i hown
      obtain ⟨id, hid⟩ := Option.isSome_iff_exists.1 hown
      obtain ⟨a, ha, -, htomb⟩ := isLive_iff.1 (hw.owned wt id hwt hid)
      have hno := h.untombstoned fun i r af hl => by
        rw [hwt] at hl
        cases hl
        cases hid
      simp only [wp_bind, wp_modify]
      refine (disconnect_tends w c₀ tr₀).wp ⟨⟨?_, ?_⟩, fun hnone => by simp_all, hno⟩
        fun _ _ _ h => h
      · simpa [Calls] using h.stop hno
      · simpa using hs
    · simpa [Tends, Calls] using ⟨h, hs⟩
  · -- nobody asks anything
    simpa [Tends, Calls] using ⟨h, hs⟩

end Ctl

end VoiceSession
