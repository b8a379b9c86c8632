import VoiceSession.Http.Route
import VoiceSession.Controller.Basic
/-!
# Responses of the control surface

Displays answer at once from the published view; actions answer with the state the controller
returned and the view published by then, or 503 when it is gone. An unknown path answers 404, a
refused method 405, and `HEAD` an empty body.
-/

namespace VoiceSession.Http

open Json

/-- A response body. -/
inductive Body where
  | json (value : Value)
  | text (text : String)

/-- A response: status code and body. -/
structure Response where
  status : Nat
  body : Body

namespace Response

def action (state : ConnectionState) (v : View) : Response :=
  { status := 200, body := .json (.object [("state", .string state.name), ("status", .string v.status),
      ("connect_enabled", .bool v.connectEnabled), ("disconnect_enabled", .bool v.disconnectEnabled)]) }

def unavailable : Response :=
  { status := 503, body := .json (.object [("error", .string Failure.controllerGone.describe)]) }

def empty (status : Nat) : Response := { status := status, body := .text "" }

end Response

def Route.action? : Route → Option Action
  | .connect => some .connect
  | .disconnect => some .disconnect
  | _ => none

/-- What a display route shows of a view. -/
def Route.display (r : Route) (v : View) : Response :=
  let json (value : Value) : Response := { status := 200, body := .json value }
  match r with
  | .health => { status := 200, body := .text "OK" }
  | .view => json v.toJson
  | .log => json (.array (v.log.map LogEntry.toJson))
  | .search =>
    json (.object [("sections", .array (((v.searchResult.map SearchResult.sections).getD []).map
      Section.toJson))])
  | .connect | .disconnect => Response.empty 405

/-- A request as the surface sees it once its target is read. -/
structure Request where
  method : String
  target : String
  path : String
  deriving DecidableEq, Repr

namespace Request

def make (method target : String) : Except String Request := do
  let m ← checkMethod method
  let p ← targetPath target
  return { method := m, target := target, path := p }

def resolution (q : Request) : Resolution := resolve q.method q.path

def action? (q : Request) : Option Action :=
  match q.resolution with
  | .found r => r.action?
  | _ => none

/-- The answer to a request that asks nothing of the controller, from the published view. -/
def answer (q : Request) (v : View) : Response :=
  match q.resolution with
  | .notFound => Response.empty 404
  | .wrongMethod => Response.empty 405
  | .found r => if q.method == "HEAD" then Response.empty 200 else r.display v

end Request

end VoiceSession.Http
