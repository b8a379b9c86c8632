import VoiceSession.Proofs.Triple
/-!
# The controller's contacts with its world

`World.recorded w` writes every contact with `w` into a trace, so a fact proved of the trace in
every recorded world holds of every behaviour of transports, sink and requesters. The trace is
read through `filterMap` views, computed by simp lemmas for every kind of contact.
-/

namespace VoiceSession

def Command.request : Command → RequestId
  | .connect r | .disconnect r => r

/-- A contact the controller makes with its world: each call, with what it passed and, for a call
that answers, what it got back. -/
inductive Contact where
  | create (session : SessionId) (result : Except String Unit)
  | begin (session : SessionId) (call : Call)
  | poll (status : PollStatus)
  | tracks (session : SessionId)
  | sink (op : SinkOp)
  | reply (request : RequestId) (state : ConnectionState)
  | take (command : Option Command)

namespace World

variable {σ α β : Type}

def noting (m : StateM σ α) (contact : α → Contact) : StateM (σ × List Contact) α := fun p =>
  ((m.run p.1).1, (m.run p.1).2, p.2 ++ [contact (m.run p.1).1])

/-- The world `w`, keeping the trace of every contact made with it next to its own state. -/
def recorded (w : World σ) : World (σ × List Contact) where
  create id := noting (w.create id) (.create id)
  begin id call := noting (w.begin id call) fun _ => .begin id call
  poll := noting w.poll fun p => .poll p.status
  tracks id := noting (w.tracks id) fun _ => .tracks id
  sink op := noting (w.sink op) fun _ => .sink op
  reply r st := noting (w.reply r st) fun _ => .reply r st
  takeCommand := noting w.takeCommand .take
  render := w.render

@[simp] theorem noting_run (m : StateM σ α) (contact : α → Contact) (p : σ × List Contact) :
    (noting m contact).run p = ((m.run p.1).1, (m.run p.1).2, p.2 ++ [contact (m.run p.1).1]) :=
  rfl

variable (w : World σ)

@[simp] theorem recorded_create (id : SessionId) :
    w.recorded.create id = noting (w.create id) (.create id) := rfl

@[simp] theorem recorded_begin (id : SessionId) (call : Call) :
    w.recorded.begin id call = noting (w.begin id call) fun _ => .begin id call := rfl

@[simp] theorem recorded_poll : w.recorded.poll = noting w.poll fun p => .poll p.status := rfl

@[simp] theorem recorded_tracks (id : SessionId) :
    w.recorded.tracks id = noting (w.tracks id) fun _ => .tracks id := rfl

@[simp] theorem recorded_sink : w.recorded.sink = fun op => noting (w.sink op) fun _ => .sink op :=
  rfl

@[simp] theorem recorded_reply (r : RequestId) (st : ConnectionState) :
    w.recorded.reply r st = noting (w.reply r st) fun _ => .reply r st := rfl

@[simp] theorem recorded_takeCommand : w.recorded.takeCommand = noting w.takeCommand .take := rfl

/-- A run of calls that answer nothing, one per element of a list, writes one contact per element,
in order. -/
@[simp] theorem forM_noting (xs : List β) (f : β → StateM σ Unit) (contact : β → Contact)
    (p : σ × List Contact) :
    (xs.forM fun x => noting (f x) fun _ => contact x).run p =
      ((), ((xs.forM f).run p.1).2, p.2 ++ xs.map contact) := by
  induction xs generalizing p with
  | nil =>
      simp only [List.map_nil, List.append_nil]
      rfl
  | cons x xs ih =>
      change (xs.forM fun x => noting (f x) fun _ => contact x).run
        ((noting (f x) fun _ => contact x).run p).2 = _
      rw [ih, noting_run]
      simp only [List.map_cons, List.append_assoc, List.singleton_append]
      rfl

end World

/-! ### Views of a trace -/

namespace Contact

def taken? : Contact → Option RequestId
  | .take (some cmd) => some cmd.request
  | _ => none

def answered? : Contact → Option RequestId
  | .reply r _ => some r
  | _ => none

def created? : Contact → Option SessionId
  | .create id _ => some id
  | _ => none

end Contact

def taken (tr : List Contact) : List RequestId := tr.filterMap Contact.taken?

def answered (tr : List Contact) : List RequestId := tr.filterMap Contact.answered?

def creations (tr : List Contact) : List SessionId := tr.filterMap Contact.created?

section Views

variable {tr tr' : List Contact}

@[simp] theorem taken_nil : taken [] = [] := rfl
@[simp] theorem answered_nil : answered [] = [] := rfl
@[simp] theorem creations_nil : creations [] = [] := rfl

@[simp] theorem taken_append : taken (tr ++ tr') = taken tr ++ taken tr' := List.filterMap_append
@[simp] theorem answered_append : answered (tr ++ tr') = answered tr ++ answered tr' :=
  List.filterMap_append
@[simp] theorem creations_append : creations (tr ++ tr') = creations tr ++ creations tr' :=
  List.filterMap_append

@[simp] theorem taken_cons (x : Contact) : taken (x :: tr) = (x.taken?.toList ++ taken tr) := by
  cases h : x.taken? <;> simp [taken, h]

@[simp] theorem answered_cons (x : Contact) :
    answered (x :: tr) = (x.answered?.toList ++ answered tr) := by
  cases h : x.answered? <;> simp [answered, h]

@[simp] theorem creations_cons (x : Contact) :
    creations (x :: tr) = (x.created?.toList ++ creations tr) := by
  cases h : x.created? <;> simp [creations, h]

@[simp] theorem taken_map_sink (ops : List SinkOp) : taken (ops.map .sink) = [] := by
  induction ops <;> simp [Contact.taken?, *]

@[simp] theorem answered_map_sink (ops : List SinkOp) : answered (ops.map .sink) = [] := by
  induction ops <;> simp [Contact.answered?, *]

@[simp] theorem creations_map_sink (ops : List SinkOp) : creations (ops.map .sink) = [] := by
  induction ops <;> simp [Contact.created?, *]

@[simp] theorem answered_map_reply (rs : List RequestId) (st : ConnectionState) :
    answered (rs.map fun r => .reply r st) = rs := by
  induction rs <;> simp [Contact.answered?, *]

@[simp] theorem taken_map_reply (rs : List RequestId) (st : ConnectionState) :
    taken (rs.map fun r => .reply r st) = [] := by
  induction rs <;> simp [Contact.taken?, *]

@[simp] theorem creations_map_reply (rs : List RequestId) (st : ConnectionState) :
    creations (rs.map fun r => .reply r st) = [] := by
  induction rs <;> simp [Contact.created?, *]

theorem take_eq_of_nodup {c₁ c₂ : Command} (h : (taken tr).Nodup)
    (h₁ : Contact.take (some c₁) ∈ tr) (h₂ : Contact.take (some c₂) ∈ tr)
    (hr : c₁.request = c₂.request) : c₁ = c₂ := by
  induction tr with
  | nil => cases h₁
  | cons x xs ih =>
      rw [taken_cons, List.nodup_append] at h
      obtain ⟨-, hxs, hdisj⟩ := h
      -- the request a later take takes is not the one taken first
      have hlater : ∀ c, Contact.take (some c) ∈ xs → x.taken? ≠ some c.request := fun c hc hx =>
        hdisj c.request (by simp [hx]) c.request (List.mem_filterMap.2 ⟨_, hc, rfl⟩) rfl
      rcases List.mem_cons.1 h₁ with rfl | hin₁ <;> rcases List.mem_cons.1 h₂ with heq₂ | hin₂
      · cases heq₂
        rfl
      · exact absurd (by simp [Contact.taken?, hr]) (hlater c₂ hin₂)
      · subst heq₂
        exact absurd (by simp [Contact.taken?, hr]) (hlater c₁ hin₁)
      · exact ih hxs hin₁ hin₂

end Views

end VoiceSession
