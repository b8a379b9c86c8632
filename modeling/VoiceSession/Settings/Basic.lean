import VoiceSession.Json.Value
/-!
# Settings

The settings come in three groups: how sessions are established, where the control surface
listens, and how diagnostics are filtered. Every field has a default.
-/

namespace VoiceSession

open Json

/-- How new sessions are established. -/
structure ControllerSettings where
  connectUrl : String := "http://localhost:7860/connect"
  enableMic : Bool := true
  enableCam : Bool := false
  deriving DecidableEq, Repr, Inhabited

/-- Where the control surface listens. -/
structure HttpSettings where
  bind : String := "127.0.0.1"
  port : UInt16 := 7861
  deriving DecidableEq, Repr, Inhabited

/-- How diagnostics are filtered. -/
structure LoggingSettings where
  filter : String := "voice_agent_client=info"
  withTarget : Bool := false
  deriving DecidableEq, Repr, Inhabited

/-- All settings. -/
structure Settings where
  controller : ControllerSettings := {}
  http : HttpSettings := {}
  logging : LoggingSettings := {}
  deriving DecidableEq, Repr, Inhabited

/-- What a transport needs to establish a session. -/
structure ConnectParams where
  endpoint : String
  enableMic : Bool
  enableCam : Bool
  deriving DecidableEq, Repr

def ConnectParams.ofSettings (s : ControllerSettings) : ConnectParams :=
  { endpoint := s.connectUrl, enableMic := s.enableMic, enableCam := s.enableCam }

/-- JSON form of the settings, groups and fields in declaration order. -/
def Settings.toJson (s : Settings) : Value :=
  .object [
    ("controller", .object [("connect_url", .string s.controller.connectUrl),
      ("enable_mic", .bool s.controller.enableMic), ("enable_cam", .bool s.controller.enableCam)]),
    ("http", .object [("bind", .string s.http.bind), ("port", Value.nat s.http.port.toNat)]),
    ("logging", .object [("filter", .string s.logging.filter),
      ("with_target", .bool s.logging.withTarget)])]

def ConnectParams.toJson (p : ConnectParams) : Value :=
  .object [("endpoint", .string p.endpoint), ("enable_mic", .bool p.enableMic),
    ("enable_cam", .bool p.enableCam)]

end VoiceSession
