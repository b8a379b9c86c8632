import VoiceSession.Media
import VoiceSession.Connection
import VoiceSession.Message
import VoiceSession.View
import VoiceSession.Failure
/-!
# Session events

Everything a transport reports to the controller is an `Event`, tagged with the session that
produced it (`Envelope`). Agent messages become events one to one; an error reply to a message
this client sent becomes `messageError`.
-/

namespace VoiceSession

open Json

/-- What a transport can report. -/
inductive Event where
  | connected
  | disconnected
  | transportStateChanged (state : TransportState)
  | trackStarted (track : Track) (participant : Participant)
  | trackStopped (track : Track) (participant : Participant)
  | botConnected (participant : Participant)
  | botDisconnected (participant : Participant)
  | botReady (data : Value)
  | userTranscript (transcript : Transcript)
  | botTranscript (transcript : Transcript)
  | searchResponse (response : SearchResponse)
  | messageError (data : Value)
  | error (data : Value)
  deriving Repr

namespace Event

/-- The name of an event's kind. -/
def name : Event → String
  | .connected => "connected"
  | .disconnected => "disconnected"
  | .transportStateChanged _ => "transportStateChanged"
  | .trackStarted .. => "trackStarted"
  | .trackStopped .. => "trackStopped"
  | .botConnected _ => "botConnected"
  | .botDisconnected _ => "botDisconnected"
  | .botReady _ => "botReady"
  | .userTranscript _ => "userTranscript"
  | .botTranscript _ => "botTranscript"
  | .searchResponse _ => "searchResponse"
  | .messageError _ => "messageError"
  | .error _ => "error"

/-- The event an agent message stands for. -/
def ofMessage : AgentMessage → Event
  | .botReady v => .botReady v
  | .userTranscription t => .userTranscript t
  | .botTranscription t => .botTranscript t
  | .searchResponse r => .searchResponse r
  | .errorResponse v => .messageError v
  | .error v => .error v

/-- The event a transport queues for a raw payload: the message `decode` reads from it, or a
`messageError` holding the refusal, as a malformed-message failure, and the payload read as text
with ill-formed bytes replaced. `decode` is the JSON library's reading of a message, giving the
text of its error on a refusal. -/
def ofPayload (decode : List UInt8 → Except String AgentMessage) (payload : List UInt8) : Event :=
  match decode payload with
  | .ok m => ofMessage m
  | .error e =>
    .messageError (.object [("error", .string (Failure.message e).describe),
      ("payload", .string (Text.Utf8.decodeLossy payload))])

end Event

/-- An event with the session that produced it. -/
structure Envelope where
  session : SessionId
  event : Event
  deriving Repr

end VoiceSession
