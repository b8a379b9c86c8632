import VoiceSession.Json.Shape
import VoiceSession.Json.Print
import VoiceSession.Search
/-!
# Agent messages

The agent sends JSON objects `{"type": <kind>, "data": <payload>}`, the payload's shape following
from the kind. `AgentMessage.decode` is the JSON library's reading of a message, used to run the
program; the controller itself takes the reader as a parameter (`Event.ofPayload`).
-/

namespace VoiceSession

open Json

/-- A speech transcript; interim transcripts are not final. -/
structure Transcript where
  text : String
  isFinal : Bool := false
  deriving DecidableEq, Repr

namespace Transcript

def toJson (t : Transcript) : Value :=
  .object [("text", .string t.text), ("final", .bool t.isFinal)]

/-- Decodes a transcript from a value: `text` is required, `final` defaults to false. -/
def decode (src : Source) (v : Value) : Decoded Transcript :=
  Decode.record src "struct Transcript"
    (fun ms => do
      let (text, fin) ← ms.foldlM
        (fun (text, fin) (k, x) =>
          if k = "text" then return (← Decode.fill "text" text (Decode.string x), fin)
          else if k = "final" then return (text, ← Decode.fill "final" fin (Decode.bool x))
          else return (text, fin))
        (none, none)
      return { text := ← Decode.required "text" text, isFinal := fin.getD false })
    (fun items => match items with
      | [] => .error (.ofMismatch (.invalidLength 0 "struct Transcript with 2 elements"))
      | [x] => return ({ text := ← Decode.string x }, 1)
      | x :: y :: _ => return ({ text := ← Decode.string x, isFinal := ← Decode.bool y }, 2))
    v

/-- Reads a transcript straight from text. -/
def scan (budget : Nat) : Scan Transcript :=
  Scan.record budget "struct Transcript"
    (fun _ => do
      let (text, fin) ← Scan.fields
        (fun (text, fin) k =>
          if k = "text" then return (← Scan.fill "text" text Scan.string, fin)
          else if k = "final" then return (text, ← Scan.fill "final" fin Scan.bool)
          else do Scan.skipField; return (text, fin))
        (none, none)
      return { text := ← Scan.required "text" text, isFinal := fin.getD false })
    (fun _ => do
      if !(← Scan.nextItem true) then
        Scan.mismatch (.invalidLength 0 "struct Transcript with 2 elements")
      let text ← Scan.string
      let fin ← if ← Scan.nextItem false then Scan.bool else pure false
      return { text := text, isFinal := fin })

end Transcript

/-- Reads an origin straight from text. -/
def Origin.scan (budget : Nat) : Scan Origin :=
  Scan.record budget "struct Origin"
    (fun _ => do
      let (uri, title) ← Scan.fields
        (fun (uri, title) k =>
          if k = "site_uri" then return (← Scan.fill "site_uri" uri Scan.string, title)
          else if k = "site_title" then return (uri, ← Scan.fill "site_title" title Scan.string)
          else do Scan.skipField; return (uri, title))
        (none, none)
      return { siteUri := ← Scan.required "site_uri" uri,
               siteTitle := ← Scan.required "site_title" title })
    (fun _ => do
      let short {α : Type} (n : Nat) : Scan α :=
        Scan.mismatch (.invalidLength n "struct Origin with 2 elements")
      if !(← Scan.nextItem true) then short 0
      let uri ← Scan.string
      if !(← Scan.nextItem false) then short 1
      let title ← Scan.string
      return { siteUri := uri, siteTitle := title })

/-- Reads a search response straight from text. -/
def SearchResponse.scan (budget : Nat) : Scan SearchResponse :=
  let text := Scan.option Scan.string
  let origins (b : Nat) := Scan.option (Scan.list b Origin.scan)
  Scan.record budget "struct SearchResponse"
    (fun b => do
      let (res, os, content) ← Scan.fields
        (fun (res, os, content) k =>
          if k = "search_result" then return (← Scan.fill "search_result" res text, os, content)
          else if k = "origins" then return (res, ← Scan.fill "origins" os (origins b), content)
          else if k = "rendered_content" then
            return (res, os, ← Scan.fill "rendered_content" content text)
          else do Scan.skipField; return (res, os, content))
        (none, none, none)
      return { searchResult := res.join, origins := os.join, renderedContent := content.join })
    (fun b => do
      if !(← Scan.nextItem true) then return {}
      let res ← text
      if !(← Scan.nextItem false) then return { searchResult := res }
      let os ← origins b
      if !(← Scan.nextItem false) then return { searchResult := res, origins := os }
      let content ← text
      return { searchResult := res, origins := os, renderedContent := content })

/-- The kinds of agent message. -/
inductive MessageKind where
  | botReady
  | userTranscription
  | botTranscription
  | botLlmSearchResponse
  | errorResponse
  | error
  deriving DecidableEq, Repr

namespace MessageKind

/-- The name a kind has in the `type` member. -/
def name : MessageKind → String
  | .botReady => "bot-ready"
  | .userTranscription => "user-transcription"
  | .botTranscription => "bot-transcription"
  | .botLlmSearchResponse => "bot-llm-search-response"
  | .errorResponse => "error-response"
  | .error => "error"

def all : List MessageKind :=
  [.botReady, .userTranscription, .botTranscription, .botLlmSearchResponse, .errorResponse, .error]

def ofName? (n : String) : Option MessageKind := all.find? (·.name == n)

end MessageKind

/-- A message from the agent. -/
inductive AgentMessage where
  | botReady (data : Value)
  | userTranscription (transcript : Transcript)
  | botTranscription (transcript : Transcript)
  | searchResponse (response : SearchResponse)
  | errorResponse (data : Value)
  | error (data : Value)
  deriving Repr

namespace AgentMessage

/-- The kind of a message. -/
def kind : AgentMessage → MessageKind
  | .botReady _ => .botReady
  | .userTranscription _ => .userTranscription
  | .botTranscription _ => .botTranscription
  | .searchResponse _ => .botLlmSearchResponse
  | .errorResponse _ => .errorResponse
  | .error _ => .error

def payload : AgentMessage → Value
  | .botReady v | .errorResponse v | .error v => v
  | .userTranscription t | .botTranscription t => t.toJson
  | .searchResponse r => r.toJson

def toJson (m : AgentMessage) : Value :=
  .object [("type", .string m.kind.name), ("data", m.payload)]

def encode (m : AgentMessage) : String := m.toJson.compact

/-- Builds a message of a kind from a payload decoded from a buffered value. -/
def ofBuffered (k : MessageKind) (v : Value) : Decoded AgentMessage :=
  match k with
  | .botReady => .ok (.botReady v.canonical)
  | .userTranscription => .userTranscription <$> Transcript.decode .buffered v
  | .botTranscription => .botTranscription <$> Transcript.decode .buffered v
  | .botLlmSearchResponse => .searchResponse <$> SearchResponse.decode .buffered v
  | .errorResponse => .ok (.errorResponse v.canonical)
  | .error => .ok (.error v.canonical)

/-- Reads the payload of a kind straight from text. -/
def scanPayload (k : MessageKind) (budget : Nat) : Scan AgentMessage :=
  match k with
  | .botReady => do return .botReady (← Scan.value budget).canonical
  | .userTranscription => .userTranscription <$> Transcript.scan budget
  | .botTranscription => .botTranscription <$> Transcript.scan budget
  | .botLlmSearchResponse => .searchResponse <$> SearchResponse.scan budget
  | .errorResponse => do return .errorResponse (← Scan.value budget).canonical
  | .error => do return .error (← Scan.value budget).canonical

/-- What the message object's object members mean. -/
inductive Member where
  | kind
  | payload

def expected : String := "adjacently tagged enum ServerMessage"

/-- A kind written as a string. -/
def scanKindName : Scan MessageKind := Scan.placed do
  match ← Scan.blank with
  | some 34 =>
    let n ← Scan.stringLiteral
    match MessageKind.ofName? n with
    | some k => pure k
    | none => Scan.mismatch (.unknownVariant n (MessageKind.all.map MessageKind.name))
  | none => Scan.failAhead .eofWhileParsingValue
  | some _ => Scan.wrongKind "variant identifier"

/-- The value `null`, the only payload of a kind written as an object. -/
def scanNull : Scan Unit := Scan.placed do
  match ← Scan.blank with
  | some 110 => Scan.eat; Scan.word [117, 108, 108]
  | none => Scan.failAhead .eofWhileParsingValue
  | some _ => Scan.wrongKind "unit"

/-- The value of the `type` member: a kind's name, or an object `{name: null}`. -/
def scanKind (budget : Nat) : Scan MessageKind := do
  match ← Scan.blank with
  | some 123 => do
    Scan.open_ budget
    let k ← scanKindName
    Scan.colon
    scanNull
    match ← Scan.blank with
    | some 125 => Scan.eat; pure k
    | some _ => Scan.fail .expectedSomeValue
    | none => Scan.fail .eofWhileParsingObject
  | some 34 => scanKindName
  | some _ => Scan.failAhead .expectedSomeValue
  | none => Scan.failAhead .eofWhileParsingValue

/-- The next `type` or `data` key, passing over the values of other keys. -/
def nextMember (first : Bool) : Scan (Option Member) := do
  let fuel := (← get).rest.length + 1
  let rec go : Nat → Bool → Scan (Option Member)
    | 0, _ => pure none
    | fuel + 1, first => do
      match ← Scan.nextKey first with
      | none => pure none
      | some "type" => pure (some .kind)
      | some "data" => pure (some .payload)
      | some _ => do Scan.skipField; go fuel false
  go fuel first

/-- After the message: only other keys may follow. -/
def noMoreMembers (m : AgentMessage) : Scan AgentMessage := do
  match ← nextMember false with
  | some .kind => Scan.mismatch (.duplicateField "type")
  | some .payload => Scan.mismatch (.duplicateField "data")
  | none => pure m

/-- The members of a message object whose `{` was read. -/
def scanMembers (budget : Nat) : Scan AgentMessage := do
  match ← nextMember true with
  | none => Scan.mismatch (.missingField "type")
  | some .kind =>
    Scan.colon
    let k ← scanKind budget
    match ← nextMember false with
    | some .kind => Scan.mismatch (.duplicateField "type")
    | none => Scan.mismatch (.missingField "data")
    | some .payload =>
      Scan.colon
      noMoreMembers (← scanPayload k budget)
  | some .payload =>
    Scan.colon
    let buffered ← Scan.value budget
    match ← nextMember false with
    | some .payload => Scan.mismatch (.duplicateField "data")
    | none => Scan.mismatch (.missingField "type")
    | some .kind =>
      Scan.colon
      let k ← scanKind budget
      match ofBuffered k buffered with
      | .ok m => noMoreMembers m
      | .error e => throw e

/-- The items of a message array whose `[` was read. -/
def scanItems (budget : Nat) : Scan AgentMessage := do
  if !(← Scan.nextItem true) then Scan.mismatch (.invalidLength 0 expected)
  let k ← scanKindName
  if !(← Scan.nextItem false) then Scan.mismatch (.invalidLength 1 expected)
  scanPayload k budget

def scan : Scan AgentMessage := do
  let m ← Scan.record 128 expected scanMembers scanItems
  Scan.finish
  return m

def decode (bytes : List UInt8) : Except Json.Error AgentMessage :=
  Scan.runOn scan bytes

end AgentMessage

end VoiceSession
