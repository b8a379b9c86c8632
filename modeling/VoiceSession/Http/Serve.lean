import VoiceSession.Host.Runtime
import VoiceSession.Net.Url
import VoiceSession.Net.Io
/-!
# Serving the control surface

Serving binds a listener at the configured address, with a spawned controller behind it, and
answers requests one after another. What the network does with a client's connections is a
parameter (`Reach`).
-/

namespace VoiceSession.Http

open Net

/-- How the network treats the surface and its clients. -/
structure Reach where
  portHeld : Bool := false
  connectFailure : Option IoError := none

/-- What serving came to. -/
inductive Served where
  | bindFailed (message : String)
  | clientFailed (url : String)
  | answered (responses : List Response) (view : View) (calls : List String)

def bindFailure (address : String) (e : IoError) : String :=
  "Failed to bind " ++ address ++ ": " ++ e.describe

/-- The URL a client uses for a request. -/
def requestUrl (address : String) (q : Request) : String :=
  let text := "http://" ++ address ++ q.target
  match Url.parse text with
  | .ok u => u.serialize
  | .error _ => text

/-- Answers requests one after another on a runtime, each awaited to its end. -/
def answerAll (rt : Runtime) : List Request → List Response × Runtime
  | [] => ([], rt)
  | q :: qs =>
    let (n, rt) := rt.start (.serve q)
    let rt := rt.settle
    let response := match rt.host.tasks[n]? with
      | some { phase := .done (.response r), .. } => r
      | _ => Response.unavailable
    let (rs, rt) := answerAll rt qs
    (response :: rs, rt)

/-- Serves the surface at `address` for the given requests. -/
def serve (settings : ControllerSettings) (script : Script) (address : String) (reach : Reach)
    (requests : List Request) : Served :=
  if reach.portHeld then .bindFailed (bindFailure address .addressInUse)
  else
    match requests, reach.connectFailure with
    | q :: _, some _ => .clientFailed (requestUrl address q)
    | _, _ =>
      let (responses, rt) := answerAll (Runtime.spawn settings script) requests
      .answered responses rt.published rt.host.scripted.calls

end VoiceSession.Http
