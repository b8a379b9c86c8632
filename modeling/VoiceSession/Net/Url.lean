import VoiceSession.Net.Idna
import VoiceSession.Net.Ipv6
/-!
# URLs

The connect endpoint is read as a URL with the rules of the URL standard, as far as they are
needed here: a scheme, an authority with its host in ASCII form, a path with `.` and `..`
resolved, and percent-encoding per part. A URL serializes back to the text shown in messages.
-/

namespace VoiceSession.Net

/-- Why a text is not a URL. -/
inductive UrlError where
  | relativeWithoutBase
  | emptyHost
  | invalidPort
  | invalidDomainCharacter
  | invalidInternationalDomainName
  | invalidIpv4Address
  | invalidIpv6Address
  deriving DecidableEq, Repr

/-- The message for a URL error. -/
def UrlError.describe : UrlError → String
  | .relativeWithoutBase => "relative URL without a base"
  | .emptyHost => "empty host"
  | .invalidPort => "invalid port number"
  | .invalidDomainCharacter => "invalid domain character"
  | .invalidInternationalDomainName => "invalid international domain name"
  | .invalidIpv4Address => "invalid IPv4 address"
  | .invalidIpv6Address => "invalid IPv6 address"

/-- A URL, its parts already in serialized form. -/
structure Url where
  scheme : String
  username : String := ""
  password : String := ""
  host : Option String := none
  port : Option Nat := none
  path : String := ""
  query : Option String := none
  fragment : Option String := none
  deriving DecidableEq, Repr

namespace Url

def credentials (u : Url) : String :=
  if u.username.isEmpty && u.password.isEmpty then ""
  else u.username ++ (if u.password.isEmpty then "" else ":" ++ u.password) ++ "@"

def serialize (u : Url) : String :=
  let authority := match u.host with
    | some h => "//" ++ u.credentials ++ h ++ (u.port.map fun n => ":" ++ toString n).getD ""
    | none => if u.path.startsWith "//" then "/." else ""
  u.scheme ++ ":" ++ authority ++ u.path ++ (u.query.map ("?" ++ ·)).getD "" ++
    (u.fragment.map ("#" ++ ·)).getD ""

end Url

/-! ## Percent-encoding -/

def controlSet (c : Char) : Bool := c.toNat < 0x20 || c.toNat > 0x7E

def fragmentSet (c : Char) : Bool := controlSet c || " \"<>".contains c || c.toNat == 0x60

def querySet (c : Char) : Bool := controlSet c || " \"#<>".contains c

def specialQuerySet (c : Char) : Bool := querySet c || c.toNat == 0x27

def pathSet (c : Char) : Bool := querySet c || "?{}".contains c || c.toNat == 0x60

def userinfoSet (c : Char) : Bool := pathSet c || "/:;=@[\\]^|".contains c

def hexDigit (n : Nat) : Char := if n < 10 then Char.ofNat (0x30 + n) else Char.ofNat (0x37 + n)

def percentByte (b : UInt8) : List Char := ['%', hexDigit (b.toNat / 16), hexDigit (b.toNat % 16)]

def percentEncode (set : Char → Bool) (cs : List Char) : String :=
  String.ofList (cs.flatMap fun c =>
    if set c then (String.singleton c).toUTF8.toList.flatMap percentByte else [c])

/-! ## Schemes -/

def defaultPort : String → Option Nat
  | "http" | "ws" => some 80
  | "https" | "wss" => some 443
  | "ftp" => some 21
  | _ => none

def isSpecial (scheme : String) : Bool :=
  ["http", "https", "ws", "wss", "ftp", "file"].contains scheme

def schemeChar (c : Char) : Bool := c.isAlphanum || c == '+' || c == '-' || c == '.'

/-- Splits off a scheme and its colon. -/
def splitScheme (cs : List Char) : Option (String × List Char) :=
  match cs with
  | c :: _ =>
    if c.isAlpha then
      let name := cs.takeWhile schemeChar
      match cs.drop name.length with
      | ':' :: rest => some (String.ofList (name.map Char.toLower), rest)
      | _ => none
    else none
  | [] => none

/-! ## Hosts -/

def forbiddenInOpaqueHost (c : Char) : Bool :=
  c.toNat == 0 || "\t\n\r #/:<>?@[\\]^|".contains c

def hexValue? (c : Char) : Option Nat :=
  if c.isDigit then some (c.toNat - 0x30)
  else if 'a' ≤ c && c ≤ 'f' then some (c.toNat - 0x57)
  else if 'A' ≤ c && c ≤ 'F' then some (c.toNat - 0x37)
  else none

def digitsValue (base : Nat) (cs : List Char) : Option Nat :=
  cs.foldl (fun acc c => do
    let v ← acc
    let d ← hexValue? c
    if d < base then some (v * base + d) else none) (some 0)

def ipv4Number (cs : List Char) : Option Nat :=
  match cs with
  | '0' :: 'x' :: rest | '0' :: 'X' :: rest => if rest.isEmpty then some 0 else digitsValue 16 rest
  | '0' :: rest@(_ :: _) => digitsValue 8 rest
  | [] => none
  | _ => digitsValue 10 cs

def labels (cs : List Char) : List (List Char) :=
  let parts := cs.splitOn '.'
  if parts.length > 1 && parts.getLast? == some [] then parts.dropLast else parts

def endsInNumber (cs : List Char) : Bool :=
  match (labels cs).getLast? with
  | some last => (!last.isEmpty && last.all Char.isDigit) || (ipv4Number last).isSome
  | none => false

/-- Reads an IPv4 address and writes it as four decimal numbers. -/
def ipv4 (cs : List Char) : Except UrlError String := do
  let parts := labels cs
  if parts.length > 4 || parts.isEmpty then throw .invalidIpv4Address
  let nums ← parts.mapM fun p => match ipv4Number p with
    | some n => pure n
    | none => throw .invalidIpv4Address
  let front := nums.dropLast
  let last := nums.getLast?.getD 0
  if front.any (· > 255) then throw .invalidIpv4Address
  if last ≥ Nat.pow 256 (5 - nums.length) then throw .invalidIpv4Address
  let value := (front.zipIdx).foldl (fun acc (n, i) => acc + n * Nat.pow 256 (3 - i)) last
  return ".".intercalate ([3, 2, 1, 0].map fun k => toString (value / Nat.pow 256 k % 256))

/-- Decodes `%XX` escapes into bytes; other characters keep their UTF-8 bytes. -/
def percentDecode : List Char → List UInt8
  | '%' :: a :: b :: rest =>
    match hexValue? a, hexValue? b with
    | some x, some y => (x * 16 + y).toUInt8 :: percentDecode rest
    | _, _ => (String.singleton '%').toUTF8.toList ++ percentDecode (a :: b :: rest)
  | c :: rest => (String.singleton c).toUTF8.toList ++ percentDecode rest
  | [] => []

def decodesToText (part : String) : Bool :=
  match Text.Utf8.decode? (percentDecode part.toList) with
  | .ok _ => true
  | .error _ => false

/-- The URL as a client keeps it once it has taken out the user name and password for an
authorization header, which messages then show. They are taken out when the user name
percent-decodes to UTF-8 and either it is not empty or the password is not empty and
percent-decodes to UTF-8 too; otherwise the URL stays as it is. -/
def Url.withoutCredentials (u : Url) : Url :=
  if decodesToText u.username &&
      (!u.username.isEmpty || (!u.password.isEmpty && decodesToText u.password)) then
    { u with username := "", password := "" }
  else u

def bracketedHost (cs : List Char) : Except UrlError String :=
  if cs.getLast? != some ']' then .error .invalidIpv6Address
  else
    match Ipv6.parse ((cs.drop 1).dropLast) with
    | some pieces => .ok ("[" ++ Ipv6.serialize pieces ++ "]")
    | none => .error .invalidIpv6Address

/-- Reads the host of a special URL: an IPv6 address in brackets, or a domain name, percent-
decoded and brought to its ASCII form, which is an IPv4 address when it ends in a number. -/
def specialHost (cs : List Char) : Except UrlError String := do
  match cs with
  | '[' :: _ => bracketedHost cs
  | _ =>
    match Idna.toAscii (percentDecode cs) with
    | none => throw .invalidInternationalDomainName
    | some domain =>
      if domain.isEmpty then throw .emptyHost
      if endsInNumber domain.toList then ipv4 domain.toList else return domain

/-- Reads the host of a URL that is not special: an IPv6 address in brackets, or text without
forbidden characters, percent-encoded. -/
def opaqueHost (cs : List Char) : Except UrlError String :=
  match cs with
  | '[' :: _ => bracketedHost cs
  | _ =>
    if cs.any forbiddenInOpaqueHost then .error .invalidDomainCharacter
    else .ok (percentEncode controlSet cs)

/-- Reads a port; `none` when absent or the default. -/
def readPort (scheme : String) (cs : List Char) : Except UrlError (Option Nat) :=
  if cs.isEmpty then .ok none
  else if !cs.all Char.isDigit then .error .invalidPort
  else
    let n := digitsValue 10 cs |>.getD 0
    if n > 65535 then .error .invalidPort
    else if defaultPort scheme == some n then .ok none
    else .ok (some n)

/-! ## Paths

A hierarchical path is written into a buffer segment by segment. The characters of a segment
are percent-encoded and appended, and the separator after it (a slash, or a backslash in a
special URL) is appended as `/`. When the segment is complete its text decides:

* `..` (also with `%2e` for a dot) cuts the buffer back to where the segment started, drops the
  slash before it unless that slash is the only one or starts a drive letter, and then removes
  the last segment left, which is kept when it is a `file` drive letter written with `:`; a
  slash is added back when a separator followed;
* `.` cuts the buffer back to where the segment started, ending it with a slash;
* in a `file` URL, a Windows drive letter (a letter and `:` or `|`) that starts right after the
  first character of the buffer is written with `:`, and the URL loses its host.

In a `file` URL a character that follows a buffer holding a slash and a drive letter alone gets a
slash before it, and at the end the slashes at the start of the path are reduced to one.

What the buffer holds before the path is read depends on how the URL begins, which is why
`file:///C|/x` keeps its `|`: after an empty host the path text starts with a slash, so the
drive letter does not start right after the first character. -/

def singleDot (s : String) : Bool := s == "." || s.toLower == "%2e"

def doubleDot (s : String) : Bool :=
  let t := s.toLower
  t == ".." || t == ".%2e" || t == "%2e." || t == "%2e%2e"

def isAsciiAlpha (c : Char) : Bool := ('a' ≤ c && c ≤ 'z') || ('A' ≤ c && c ≤ 'Z')

def isDriveLetter : List Char → Bool
  | [c, d] => isAsciiAlpha c && (d == ':' || d == '|')
  | _ => false

def isNormalDriveLetter : List Char → Bool
  | [c, d] => isAsciiAlpha c && d == ':'
  | _ => false

/-- Whether text starts with a Windows drive letter followed by its end or one of `/ \ ? #`. -/
def startsWithDriveLetter : List Char → Bool
  | c :: d :: rest =>
    isAsciiAlpha c && (d == ':' || d == '|') &&
      (match rest with
        | [] => true
        | e :: _ => "/\\?#".contains e)
  | _ => false

def pathStartsWithDriveLetter : List Char → Bool
  | c :: rest => "/\\?#".contains c && startsWithDriveLetter rest
  | [] => false

def lastSlash (cs : List Char) : Option Nat :=
  (cs.reverse.idxOf? '/').map fun j => cs.length - 1 - j

/-- Whether the slash that ends the buffer may go before a `..` climbs: the buffer before it
holds a slash, which does not start a drive letter. -/
def lastSlashRemovable (out : List Char) : Bool :=
  match lastSlash out.dropLast with
  | some i => !pathStartsWithDriveLetter (out.drop i)
  | none => false

/-- Removes the last segment of the buffer, the text after its last slash, unless in a `file`
URL it is a drive letter written with `:`. -/
def popSegment (file : Bool) (out : List Char) : List Char :=
  let start := ((lastSlash out).map (· + 1)).getD 0
  if file && isNormalDriveLetter (out.drop start) then out else out.take start

/-- Climbs one segment: nothing when the buffer is empty or, in a `file` URL, is a drive letter
alone. -/
def climb (file : Bool) (out : List Char) : List Char :=
  if out.isEmpty || (file && isNormalDriveLetter out) then out else popSegment file out

structure PathBuffer where
  out : List Char
  driveTookHost : Bool := false

/-- Appends one segment, percent-encoded, and its separator if one follows: the buffer, where
the segment starts in it, whether a separator ended it, and the input left. -/
def writeSegment (file : Bool) (sep : Char → Bool) :
    List Char → List Char → Nat → List Char × Nat × Bool × List Char
  | out, [], start => (out, start, false, [])
  | out, c :: rest, start =>
    if sep c then (out ++ ['/'], start, true, rest)
    else
      let (out, start) :=
        if file && !out.isEmpty && isNormalDriveLetter (out.drop 1) then (out ++ ['/'], start + 1)
        else (out, start)
      writeSegment file sep (out ++ (percentEncode pathSet [c]).toList) rest start

/-- Acts on a segment just written, which starts at `start` and is followed by a separator when
`closed`. -/
def endSegment (file : Bool) (b : PathBuffer) (start : Nat) (closed : Bool) : PathBuffer :=
  let segment := (b.out.drop start).take (b.out.length - start - (if closed then 1 else 0))
  let text := String.ofList segment
  if doubleDot text then
    let out := b.out.take start
    let out := if out.getLast? == some '/' && lastSlashRemovable out then out.dropLast else out
    let out := climb file out
    { b with out := if closed && out.getLast? != some '/' then out ++ ['/'] else out }
  else if singleDot text then
    let out := b.out.take start
    { b with out := if out.getLast? != some '/' then out ++ ['/'] else out }
  else if file && start == 1 && isDriveLetter segment then
    { out := b.out.take start ++ segment.take 1 ++ [':'] ++ (if closed then ['/'] else []),
      driveTookHost := true }
  else b

def writeSegments (file : Bool) (sep : Char → Bool) : Nat → PathBuffer → List Char → PathBuffer
  | 0, b, _ => b
  | fuel + 1, b, input =>
    let (out, start, closed, rest) := writeSegment file sep b.out input b.out.length
    let b := endSegment file { b with out := out } start closed
    if closed then writeSegments file sep fuel b rest else b

/-- The serialized path of a hierarchical URL written into a buffer holding `start`, and whether
a drive letter took the host away. A `file` path ends up with one slash at its start. -/
def writePath (scheme : String) (start input : List Char) : String × Bool :=
  let file := scheme == "file"
  let sep (c : Char) : Bool := c == '/' || (isSpecial scheme && c == '\\')
  let b := writeSegments file sep (input.length + 1) { out := start } input
  let out := if file then '/' :: b.out.dropWhile (· == '/') else b.out
  (String.ofList out, b.driveTookHost)

/-- The serialized path of a hierarchical URL whose path text begins the path: a separator at
its start only stands for the slash the buffer starts with. -/
def hierarchicalPath (scheme : String) (cs : List Char) : String :=
  let cs := match cs with
    | c :: rest => if c == '/' || (isSpecial scheme && c == '\\') then rest else cs
    | [] => []
  (writePath scheme ['/'] cs).1

/-- Splits the rest of a URL into path, query and fragment. -/
def splitTail (cs : List Char) : List Char × Option (List Char) × Option (List Char) :=
  let (beforeHash, fragment) := match cs.idxOf? '#' with
    | some i => (cs.take i, some (cs.drop (i + 1)))
    | none => (cs, none)
  match beforeHash.idxOf? '?' with
  | some i => (beforeHash.take i, some (beforeHash.drop (i + 1)), fragment)
  | none => (beforeHash, none, fragment)

/-! ## Reading a URL -/

def endsAuthority (special : Bool) (c : Char) : Bool :=
  c == '/' || c == '?' || c == '#' || (special && c == '\\')

/-- Splits `host:port`, a colon inside brackets not counting. -/
def splitHostPort : List Char → Bool → List Char × Option (List Char)
  | [], _ => ([], none)
  | c :: rest, inside =>
    if c == ':' && !inside then ([], some rest)
    else
      let inside := if c == '[' then true else if c == ']' then false else inside
      let (h, p) := splitHostPort rest inside
      (c :: h, p)

def splitUserinfo (u : List Char) : String × String :=
  match u.idxOf? ':' with
  | some i => (percentEncode userinfoSet (u.take i), percentEncode userinfoSet (u.drop (i + 1)))
  | none => (percentEncode userinfoSet u, "")

/-- Reads an authority into the URL: credentials before the last `@`, then host and port. -/
def readAuthority (u : Url) (cs : List Char) : Except UrlError Url := do
  let special := isSpecial u.scheme
  let mark := cs.length - 1 - ((cs.reverse.idxOf? '@').getD cs.length)
  let (userinfo, hostPort) :=
    if cs.contains '@' then (cs.take mark, cs.drop (mark + 1)) else ([], cs)
  let (username, password) := splitUserinfo userinfo
  if cs.contains '@' && hostPort.isEmpty then throw .emptyHost
  let (hostText, portText) := splitHostPort hostPort false
  if special && hostText.isEmpty then throw .emptyHost
  let host ← if special then specialHost hostText else opaqueHost hostText
  if host.isEmpty && (portText.isSome || !username.isEmpty || !password.isEmpty) then
    throw .emptyHost
  let port ← match portText with
    | some p => readPort u.scheme p
    | none => pure none
  return { u with username := username, password := password, host := some host, port := port }

def withTail (u : Url) (tail : List Char) (pathOf : List Char → String) : Url :=
  let (p, q, f) := splitTail tail
  let special := isSpecial u.scheme
  { u with path := pathOf p,
           query := q.map (percentEncode (if special then specialQuerySet else querySet)),
           fragment := f.map (percentEncode fragmentSet) }

def isSlash (special : Bool) (c : Char) : Bool := c == '/' || (special && c == '\\')

/-- The host of a `file` URL, what the path buffer starts with and the text the path is read
from. Two slashes start a host, which ends at the next slash: a host that is a drive letter is
the start of the path instead, and after a named host the path text loses its first slash,
while after an empty host or `localhost` it keeps it. Without two slashes there is no host; the
path text is all that follows the scheme, and after a single slash the buffer starts empty. -/
def fileHostAndPath (cs : List Char) : Except UrlError (String × List Char × List Char) :=
  match cs with
  | a :: b :: body =>
    if isSlash true a && isSlash true b then
      let hostText := body.takeWhile (!isSlash true ·)
      if isDriveLetter hostText then .ok ("", ['/'], body)
      else do
        let host ← if hostText.isEmpty then pure "" else specialHost hostText
        let after := body.drop hostText.length
        return if host.isEmpty || host == "localhost" then ("", ['/'], after)
          else (host, ['/'], after.drop 1)
    else if isSlash true a then .ok ("", [], cs)
    else .ok ("", ['/'], cs)
  | [a] => .ok ("", if isSlash true a then [] else ['/'], [a])
  | [] => .ok ("", ['/'], [])

/-- Reads the part of a `file` URL after the scheme. -/
def readFile (rest : List Char) : Except UrlError Url := do
  let (pathText, query, fragment) := splitTail rest
  let (host, start, pathFrom) ← fileHostAndPath pathText
  let (path, drive) := writePath "file" start pathFrom
  return { scheme := "file",
           host := some (if drive then "" else host),
           path := path,
           query := query.map (percentEncode specialQuerySet),
           fragment := fragment.map (percentEncode fragmentSet) }

/-- Reads the part of a URL after the scheme. -/
def readAfterScheme (scheme : String) (rest : List Char) : Except UrlError Url := do
  let special := isSpecial scheme
  let u : Url := { scheme := scheme }
  if scheme == "file" then readFile rest
  else if special then
    let body := rest.dropWhile (isSlash true)
    let authorityText := body.takeWhile (fun c => !endsAuthority true c)
    let tail := body.drop authorityText.length
    let u ← readAuthority u authorityText
    return withTail u tail (hierarchicalPath scheme)
  else
    match rest with
    | '/' :: '/' :: body =>
      let authorityText := body.takeWhile (fun c => !endsAuthority false c)
      let tail := body.drop authorityText.length
      let u ← readAuthority u authorityText
      return withTail u tail fun p => (writePath scheme [] p).1
    | '/' :: _ => return withTail u rest (hierarchicalPath scheme)
    | _ => return withTail u rest (percentEncode controlSet)

def ignored (c : Char) : Bool := c == '\t' || c == '\n' || c == '\r'

def Url.parse (text : String) : Except UrlError Url :=
  let cs := text.toList.dropWhile (·.toNat ≤ 0x20)
  let cs := (cs.reverse.dropWhile (·.toNat ≤ 0x20)).reverse.filter (!ignored ·)
  match splitScheme cs with
  | none => .error .relativeWithoutBase
  | some (scheme, rest) => readAfterScheme scheme rest

end VoiceSession.Net
