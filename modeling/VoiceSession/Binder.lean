import VoiceSession.Media
/-!
# Binding the audio sink

The client has one audio sink, bound to at most one remote track at a time. Binding replaces
what played unless that very track is bound; reconciling binds the first remote audio track of a
list; releasing stops playback when something is bound.
-/

namespace VoiceSession

/-- What is done to the sink. -/
inductive SinkOp where
  | attach (tracks : List Track)
  | release
  deriving DecidableEq, Repr

/-- The track the sink plays, if any. -/
structure Binder where
  bound : Option Track := none
  deriving DecidableEq, Repr, Inhabited

/-- What a binder operation answers: whether it acted, the binder after, the sink operations. -/
structure Binder.Outcome where
  acted : Bool
  binder : Binder
  ops : List SinkOp
  deriving DecidableEq, Repr

namespace Binder

def bind (b : Binder) (t : Track) : Outcome :=
  match b.bound with
  | some u => if u.id = t.id then ⟨false, b, []⟩ else ⟨true, { bound := some t }, [.attach [t]]⟩
  | none => ⟨true, { bound := some t }, [.attach [t]]⟩

def reconcile (b : Binder) (ts : List Track) : Outcome :=
  match ts.find? Track.isRemoteAudio with
  | some t => b.bind t
  | none => ⟨false, b, []⟩

def release (b : Binder) : Outcome :=
  match b.bound with
  | some _ => ⟨true, {}, [.release]⟩
  | none => ⟨false, b, []⟩

/-- A call made on a binder. -/
inductive Call where
  | bind (t : Track)
  | reconcile (ts : List Track)
  | release
  deriving DecidableEq, Repr

def call (b : Binder) : Call → Outcome
  | .bind t => b.bind t
  | .reconcile ts => b.reconcile ts
  | .release => b.release

/-- Makes calls in order: the binder after them, and the sink operations they performed. -/
def perform (b : Binder) : List Call → Binder × List SinkOp
  | [] => (b, [])
  | c :: cs =>
    let o := b.call c
    let r := o.binder.perform cs
    (r.1, o.ops ++ r.2)

end Binder

end VoiceSession
