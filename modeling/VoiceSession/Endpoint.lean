import VoiceSession.Net.Url
import VoiceSession.Net.Io
import VoiceSession.Failure
import VoiceSession.Json.Shape
/-!
# The connect endpoint

Before joining a room a transport posts an empty JSON object to the configured URL and reads the
room URL and an optional token from the answer. Every way this fails is a connect failure with
the client's chain of causes; what the network does is a parameter (`Exchange`).
-/

namespace VoiceSession

open Json Net

/-- Credentials for joining a room. -/
structure Credentials where
  roomUrl : String
  token : Option String := none
  deriving DecidableEq, Repr

namespace Credentials

def toJson (c : Credentials) : Value :=
  .object [("room_url", .string c.roomUrl), ("token", Value.ofOption c.token)]

/-- Reads credentials straight from text: `room_url` is required, `token` may be missing or
null. -/
def scan (budget : Nat) : Scan Credentials :=
  Scan.record budget "struct TransportCredentials"
    (fun _ => do
      let (room, token) ← Scan.fields
        (fun (room, token) k =>
          if k = "room_url" then return (← Scan.fill "room_url" room Scan.string, token)
          else if k = "token" then return (room, ← Scan.fill "token" token (Scan.option Scan.string))
          else do Scan.skipField; return (room, token))
        (none, none)
      return { roomUrl := ← Scan.required "room_url" room, token := token.getD none })
    (fun _ => do
      if !(← Scan.nextItem true) then
        Scan.mismatch (.invalidLength 0 "struct TransportCredentials with 2 elements")
      let room ← Scan.string
      let token ← if ← Scan.nextItem false then Scan.option Scan.string else pure none
      return { roomUrl := room, token := token })

/-- Decodes a response body. -/
def decode (body : List UInt8) : Except Json.Error Credentials :=
  Scan.runOn (do
    let c ← scan 128
    Scan.finish
    return c) body

end Credentials

/-- What became of a request sent over the network. -/
inductive Exchange where
  | unreachable (e : IoError)
  | answered (status : Nat) (body : List UInt8)

/-- The registered name of a status code. -/
def reasonPhrase : Nat → Option String
  | 100 => some "Continue" | 101 => some "Switching Protocols" | 102 => some "Processing"
  | 200 => some "OK" | 201 => some "Created" | 202 => some "Accepted"
  | 203 => some "Non Authoritative Information" | 204 => some "No Content"
  | 205 => some "Reset Content" | 206 => some "Partial Content" | 207 => some "Multi-Status"
  | 208 => some "Already Reported" | 226 => some "IM Used"
  | 300 => some "Multiple Choices" | 301 => some "Moved Permanently" | 302 => some "Found"
  | 303 => some "See Other" | 304 => some "Not Modified" | 305 => some "Use Proxy"
  | 307 => some "Temporary Redirect" | 308 => some "Permanent Redirect"
  | 400 => some "Bad Request" | 401 => some "Unauthorized" | 402 => some "Payment Required"
  | 403 => some "Forbidden" | 404 => some "Not Found" | 405 => some "Method Not Allowed"
  | 406 => some "Not Acceptable" | 407 => some "Proxy Authentication Required"
  | 408 => some "Request Timeout" | 409 => some "Conflict" | 410 => some "Gone"
  | 411 => some "Length Required" | 412 => some "Precondition Failed"
  | 413 => some "Payload Too Large" | 414 => some "URI Too Long"
  | 415 => some "Unsupported Media Type" | 416 => some "Range Not Satisfiable"
  | 417 => some "Expectation Failed" | 418 => some "I\x27m a teapot"
  | 421 => some "Misdirected Request" | 422 => some "Unprocessable Entity" | 423 => some "Locked"
  | 424 => some "Failed Dependency" | 426 => some "Upgrade Required"
  | 428 => some "Precondition Required" | 429 => some "Too Many Requests"
  | 431 => some "Request Header Fields Too Large" | 451 => some "Unavailable For Legal Reasons"
  | 500 => some "Internal Server Error" | 501 => some "Not Implemented" | 502 => some "Bad Gateway"
  | 503 => some "Service Unavailable" | 504 => some "Gateway Timeout"
  | 505 => some "HTTP Version Not Supported" | 506 => some "Variant Also Negotiates"
  | 507 => some "Insufficient Storage" | 508 => some "Loop Detected" | 510 => some "Not Extended"
  | 511 => some "Network Authentication Required"
  | _ => none

def statusText (status : Nat) : String :=
  toString status ++ " " ++ (reasonPhrase status).getD "<none>"

/-- An endpoint, known by the URL it was configured with. -/
structure Endpoint where
  url : String
  deriving DecidableEq, Repr

namespace Endpoint

def fail {α : Type} (chain : List String) : Except Failure α := .error (.connect { chain := chain })

/-- Posts to the endpoint and reads the credentials it answers with. -/
def fetchCredentials (e : Endpoint) (exchange : Url → Exchange) : Except Failure Credentials := do
  let unreachable := "Connect endpoint " ++ e.url ++ " unreachable"
  match Url.parse e.url with
  | .error err => fail [unreachable, "builder error", err.describe]
  | .ok u =>
    let shown := u.withoutCredentials.serialize
    if u.scheme != "http" && u.scheme != "https" then
      fail [unreachable, "builder error for url (" ++ shown ++ ")", "URL scheme is not allowed"]
    else
      match exchange u with
      | .unreachable io =>
        fail [unreachable, "error sending request for url (" ++ shown ++ ")", "client error (Connect)",
          "tcp connect error", io.describe]
      | .answered status body =>
        if 400 ≤ status && status < 500 then
          fail ["Connect endpoint rejected the request",
            "HTTP status client error (" ++ statusText status ++ ") for url (" ++ shown ++ ")"]
        else if 500 ≤ status && status < 600 then
          fail ["Connect endpoint rejected the request",
            "HTTP status server error (" ++ statusText status ++ ") for url (" ++ shown ++ ")"]
        else
          match Credentials.decode body with
          | .ok c => pure c
          | .error err =>
            fail ["Malformed credentials from connect endpoint", "error decoding response body",
              err.message]

end Endpoint

end VoiceSession
