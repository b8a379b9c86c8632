import VoiceSession.Json.Decode
/-!
# Participants and tracks

A room holds participants, this client among them, each publishing media tracks. The client
plays back only remote audio (`Track.isRemoteAudio`).
-/

namespace VoiceSession

open Json

/-- Someone in the room: this client, or another participant; either may have a name. -/
structure Participant where
  isLocal : Bool
  name : Option String := none
  deriving DecidableEq, Repr, Inhabited

namespace Participant

def client : Participant := { isLocal := true }

def remote (name : String) : Participant := { isLocal := false, name := some name }

def display (p : Participant) : String :=
  match p.name with
  | some n => n
  | none => if p.isLocal then "local" else "remote"

/-- JSON form; the name member is left out when there is no name. -/
def toJson (p : Participant) : Value :=
  .object (("local", .bool p.isLocal) ::
    match p.name with
    | some n => [("name", .string n)]
    | none => [])

/-- Decodes a participant: `local` is required, `name` may be missing or `null`. -/
def decode (src : Source) (v : Value) : Decoded Participant :=
  Decode.record src "struct Participant"
    (fun ms => do
      let (isLocal, name) ← ms.foldlM
        (fun (isLocal, name) (k, x) =>
          if k = "local" then return (← Decode.fill "local" isLocal (Decode.bool x), name)
          else if k = "name" then return (isLocal, ← Decode.fill "name" name (Decode.option Decode.string x))
          else return (isLocal, name))
        (none, none)
      return { isLocal := ← Decode.required "local" isLocal, name := name.join })
    (fun items => match items with
      | [] => .error (.ofMismatch (.invalidLength 0 "struct Participant with 2 elements"))
      | [x] => return ({ isLocal := ← Decode.bool x }, 1)
      | x :: y :: _ => return ({ isLocal := ← Decode.bool x, name := ← Decode.option Decode.string y }, 2))
    v

end Participant

/-- The media a track carries. -/
inductive TrackKind where
  | audio
  | video
  deriving DecidableEq, Repr, Inhabited

namespace TrackKind

def name : TrackKind → String
  | .audio => "audio"
  | .video => "video"

def title : TrackKind → String
  | .audio => "Audio"
  | .video => "Video"

def decode (v : Value) : Decoded TrackKind := do
  let n ← Decode.unitVariant ["audio", "video"] v
  return if n = "audio" then .audio else .video

end TrackKind

/-- A media stream published by a participant. -/
structure Track where
  id : String
  kind : TrackKind
  participant : Participant
  deriving DecidableEq, Repr, Inhabited

namespace Track

def isRemoteAudio (t : Track) : Bool :=
  t.kind == .audio && !t.participant.isLocal

def toJson (t : Track) : Value :=
  .object [("id", .string t.id), ("kind", .string t.kind.name), ("participant", t.participant.toJson)]

/-- Decodes a track; every member is required. -/
def decode (src : Source) (v : Value) : Decoded Track :=
  Decode.record src "struct Track"
    (fun ms => do
      let (id, kind, who) ← ms.foldlM
        (fun (id, kind, who) (k, x) =>
          if k = "id" then return (← Decode.fill "id" id (Decode.string x), kind, who)
          else if k = "kind" then return (id, ← Decode.fill "kind" kind (TrackKind.decode x), who)
          else if k = "participant" then
            return (id, kind, ← Decode.fill "participant" who (Participant.decode src x))
          else return (id, kind, who))
        (none, none, none)
      return { id := ← Decode.required "id" id, kind := ← Decode.required "kind" kind,
               participant := ← Decode.required "participant" who })
    (fun items => do
      let short (n : Nat) : Decoded (Track × Nat) :=
        .error (.ofMismatch (.invalidLength n "struct Track with 3 elements"))
      match items with
      | x :: y :: z :: _ =>
        return ({ id := ← Decode.string x, kind := ← TrackKind.decode y,
                  participant := ← Participant.decode src z }, 3)
      | [x, y] => do let _ ← Decode.string x; let _ ← TrackKind.decode y; short 2
      | [x] => do let _ ← Decode.string x; short 1
      | [] => short 0)
    v

end Track

end VoiceSession
