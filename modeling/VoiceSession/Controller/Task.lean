import VoiceSession.Controller.Lifecycle
/-!
# The controller's task

A spawned controller runs on a task of its own. Between operations it dispatches the next queued
event or takes the next request; while an operation waits, each move is a turn. Once every handle
is gone it disconnects a session still present and ends.
-/

namespace VoiceSession

/-- What the controller's task is doing. -/
inductive Activity where
  | listening
  | serving (requester : RequestId)
  | closing

/-- What the controller's task does after a move. -/
inductive Move where
  | next (activity : Activity)
  | rest (resumes : Bool)
  | stop

namespace Ctl

variable {σ : Type} (w : World σ)

/-- An operation ended in state `s`: the request that started it is answered and the task listens
again; a closing task ends. -/
def complete : Activity → ConnectionState → Ctl σ Move
  | .serving r, s => do
    liftM (w.reply r s)
    return .next .listening
  | .closing, _ => return .stop
  | .listening, _ => return .next .listening

def proceed (activity : Activity) : Option ConnectionState → Ctl σ Move
  | some s => complete w activity s
  | none => return .next activity

/-- One move of the controller's task; `closed` tells whether every handle is gone. -/
def serveMove (closed : σ → Bool) : Activity → Ctl σ Move
  | .listening => do
    let c ← get
    match c.inbox with
    | e :: queued =>
      set { c with inbox := queued }
      dispatch w e
      return .next .listening
    | [] =>
      match ← liftM w.takeCommand with
      | some (.connect r) => proceed w (.serving r) (← connect w)
      | some (.disconnect r) => proceed w (.serving r) (← disconnect w)
      | none =>
        if closed (← getThe σ) then
          if c.session.isSome then proceed w .closing (← disconnect w)
          else return .stop
        else return .rest false
  | activity => do
    match ← turn w with
    | .finished s => complete w activity s
    | .continues => return .next activity
    | .blocked resumes => return .rest resumes

end Ctl

end VoiceSession
