/-!
# Request targets and routes

The control surface has six routes: a health check, two posted session actions and three
displays. A target is read with the character rules of HTTP request targets and only its path
routes; a query and a fragment are ignored.
-/

namespace VoiceSession.Http

/-- The routes of the control surface. -/
inductive Route where
  | health
  | connect
  | disconnect
  | view
  | log
  | search
  deriving DecidableEq, Repr

namespace Route

def all : List Route := [.health, .connect, .disconnect, .view, .log, .search]

/-- The path a route is served at. -/
def path : Route → String
  | .health => "/health"
  | .connect => "/session/connect"
  | .disconnect => "/session/disconnect"
  | .view => "/session"
  | .log => "/session/log"
  | .search => "/session/search"

def allows (r : Route) (method : String) : Bool :=
  match r with
  | .connect | .disconnect => method == "POST"
  | _ => method == "GET" || method == "HEAD"

end Route

/-- Where a request lands. -/
inductive Resolution where
  | found (route : Route)
  | notFound
  | wrongMethod
  deriving DecidableEq, Repr

def resolve (method path : String) : Resolution :=
  match Route.all.find? (·.path == path) with
  | none => .notFound
  | some r => if r.allows method then .found r else .wrongMethod

/-! ## Methods -/

def tokenMarks : List Char :=
  ['!', '#', '$', '%', '&', Char.ofNat 0x27, '*', '+', '-', '.', '^', '_', '|', '~', Char.ofNat 0x60]

def checkMethod (method : String) : Except String String :=
  if !method.isEmpty && method.all (fun c => c.isAlphanum || tokenMarks.contains c) then .ok method
  else .error "invalid HTTP method"

/-! ## Targets -/

/-- Bytes a path may hold as they are; `"`, `{` and `}` are taken too, as clients send them,
and so are the bytes from `0x7F` up, which a text target holds as UTF-8. -/
def pathByte (b : UInt8) : Bool :=
  b == 0x21 || b == 0x22 || (0x24 ≤ b && b ≤ 0x3B) || b == 0x3D || (0x40 ≤ b && b ≤ 0x5F) ||
    (0x61 ≤ b && b ≤ 0x7A) || 0x7B ≤ b

def queryByte (b : UInt8) : Bool :=
  b == 0x21 || (0x24 ≤ b && b ≤ 0x3B) || b == 0x3D || 0x3F ≤ b

def authorityByte (b : UInt8) : Bool :=
  b == 0x21 || b == 0x23 || b == 0x24 || (0x26 ≤ b && b ≤ 0x3B) || b == 0x3D ||
    (0x3F ≤ b && b ≤ 0x5B) || b == 0x5D || b == 0x5F || (0x61 ≤ b && b ≤ 0x7A) || b == 0x7E

def schemeByte (b : UInt8) : Bool :=
  (0x30 ≤ b && b ≤ 0x39) || (0x41 ≤ b && b ≤ 0x5A) || (0x61 ≤ b && b ≤ 0x7A) ||
    b == 0x2B || b == 0x2D || b == 0x2E

/-- Reads the query of a target up to its fragment. -/
def checkQuery : List UInt8 → Except String Unit
  | [] => .ok ()
  | b :: rest =>
    if b == 0x23 then .ok ()
    else if queryByte b then checkQuery rest
    else .error "invalid uri character"

/-- Reads a path with its query and fragment; gives the path. -/
def readPath : List UInt8 → Except String (List UInt8)
  | [] => .ok []
  | b :: rest =>
    if b == 0x3F then (checkQuery rest).map fun _ => []
    else if b == 0x23 then .ok []
    else if pathByte b then (readPath rest).map (b :: ·)
    else .error "invalid uri character"

/-- What an authority scan keeps track of. -/
structure AuthorityScan where
  colons : Nat := 0
  opened : Bool := false
  closed : Bool := false
  percent : Bool := false
  at? : Option Nat := none

/-- Scans an authority from position `i`; gives where it ends (at `/`, `?` or `#`). -/
def scanAuthority (st : AuthorityScan) (i : Nat) : List UInt8 → Except String (AuthorityScan × Nat)
  | [] => .ok (st, i)
  | b :: rest =>
    if b == 0x2F || b == 0x3F || b == 0x23 then .ok (st, i)
    else if b == 0x3A then
      if st.colons ≥ 8 then .error "invalid authority"
      else scanAuthority { st with colons := st.colons + 1 } (i + 1) rest
    else if b == 0x5B then
      if st.percent || st.opened then .error "invalid authority"
      else scanAuthority { st with opened := true } (i + 1) rest
    else if b == 0x5D then
      if !st.opened || st.closed then .error "invalid authority"
      else scanAuthority { st with closed := true, colons := 0 } (i + 1) rest
    else if b == 0x40 then
      scanAuthority { st with at? := some i, colons := 0, percent := false } (i + 1) rest
    else if b == 0x25 then scanAuthority { st with percent := true } (i + 1) rest
    else if authorityByte b then scanAuthority st (i + 1) rest
    else .error "invalid uri character"

/-- The length of the authority at the head of `bytes`, once it is checked. -/
def authorityLength (bytes : List UInt8) : Except String Nat := do
  let (st, n) ← scanAuthority {} 0 bytes
  if st.opened != st.closed then throw "invalid authority"
  if st.colons > 1 then throw "invalid authority"
  if n > 0 && st.at? == some (n - 1) then throw "invalid authority"
  if st.percent then throw "invalid authority"
  return n

/-- The length of a scheme followed by `://` at the head of `bytes`, if there is one. -/
def schemeLength (bytes : List UInt8) : Except String (Option Nat) :=
  let lower := bytes.map fun b => if 0x41 ≤ b && b ≤ 0x5A then b + 32 else b
  let marker : List UInt8 := [0x3A, 0x2F, 0x2F]
  if lower.take 7 == "http".toUTF8.toList ++ marker then .ok (some 4)
  else if lower.take 8 == "https".toUTF8.toList ++ marker then .ok (some 5)
  else if bytes.length ≤ 3 then .ok none
  else
    let name := bytes.takeWhile schemeByte
    let n := name.length
    if (bytes.drop n).take 3 == marker then
      if n > 64 then .error "scheme too long" else .ok (some n)
    else .ok none

/-- The path a request target routes by, or why the target is not one. -/
def targetPath (target : String) : Except String String := do
  let bytes := target.toUTF8.toList
  let text (bs : List UInt8) : String := String.ofList (bs.map fun b => Char.ofNat b.toNat)
  match bytes with
  | [] => throw "empty string"
  | [0x2F] => return "/"
  | [0x2A] => return "*"
  | [_] =>
    let _ ← authorityLength bytes
    return ""
  | 0x2F :: _ => return text (← readPath bytes)
  | _ =>
    match ← schemeLength bytes with
    | none =>
      let n ← authorityLength bytes
      if n != bytes.length then throw "invalid format"
      return ""
    | some k =>
      let rest := bytes.drop (k + 3)
      let n ← authorityLength rest
      if n == 0 then throw "invalid format"
      let path ← readPath (rest.drop n)
      return if path.isEmpty then "/" else text path

end VoiceSession.Http
