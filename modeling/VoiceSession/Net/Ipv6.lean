/-!
# IPv6 addresses

An IPv6 address is eight 16-bit pieces. In a URL it stands between brackets, written as the URL
standard reads it:
-/

namespace VoiceSession.Net.Ipv6

def hexValue? (c : Char) : Option Nat :=
  if '0' ≤ c && c ≤ '9' then some (c.toNat - 0x30)
  else if 'a' ≤ c && c ≤ 'f' then some (c.toNat - 0x57)
  else if 'A' ≤ c && c ≤ 'F' then some (c.toNat - 0x37)
  else none

/-- Reads up to `n` hexadecimal digits: their value, their number and the rest. -/
def hexPiece : Nat → List Char → Nat × Nat × List Char
  | 0, cs => (0, 0, cs)
  | n + 1, c :: rest =>
    match hexValue? c with
    | some d =>
      let (v, len, after) := hexPiece n rest
      (d * 16 ^ len + v, len + 1, after)
    | none => (0, 0, c :: rest)
  | _ + 1, [] => (0, 0, [])

/-- Reads a decimal number of an embedded IPv4 address: no leading zero, at most 255. -/
def ipv4Number (cs : List Char) : Option (Nat × List Char) :=
  let digits := cs.takeWhile Char.isDigit
  let rest := cs.drop digits.length
  match digits with
  | [] => none
  | '0' :: _ :: _ => none
  | _ =>
    let v := digits.foldl (fun acc c => acc * 10 + (c.toNat - 0x30)) 0
    if v > 255 then none else some (v, rest)

/-- Reads the dotted IPv4 address that ends an IPv6 address: its four numbers. -/
def ipv4Tail (cs : List Char) : Option (List Nat) := do
  let (a, r) ← ipv4Number cs
  match r with
  | '.' :: r =>
    let (b, r) ← ipv4Number r
    match r with
    | '.' :: r =>
      let (c, r) ← ipv4Number r
      match r with
      | '.' :: r =>
        let (d, r) ← ipv4Number r
        if r.isEmpty then some [a, b, c, d] else none
      | _ => none
    | _ => none
  | _ => none

structure Reading where
  pieces : List Nat
  compress : Option Nat

/-- The places taken so far: the pieces, and one for `::`, which stands for one zero piece at
least. -/
def Reading.taken (r : Reading) : Nat := r.pieces.length + (if r.compress.isSome then 1 else 0)

/-- Reads the pieces after the start; `fuel` bounds the number of pieces. -/
def readPieces : Nat → Reading → List Char → Option Reading
  | _, r, [] => some r
  | 0, _, _ :: _ => none
  | fuel + 1, r, cs@(c :: rest) =>
    if r.taken == 8 then none
    else if c == ':' then
      if r.compress.isSome then none
      else readPieces fuel { r with compress := some r.pieces.length } rest
    else
      let (value, len, after) := hexPiece 4 cs
      match after with
      | '.' :: _ =>
        if len == 0 || r.taken > 6 then none
        else do
          let quad ← ipv4Tail cs
          match quad with
          | [a, b, c, d] => some { r with pieces := r.pieces ++ [a * 256 + b, c * 256 + d] }
          | _ => none
      | ':' :: more =>
        if more.isEmpty then none
        else readPieces fuel { r with pieces := r.pieces ++ [value] } more
      | [] => some { r with pieces := r.pieces ++ [value] }
      | _ => none

/-- Reads an address given without its brackets: its eight pieces. -/
def parse (cs : List Char) : Option (List Nat) := do
  let (start, rest) ← match cs with
    | ':' :: ':' :: rest => some (({ pieces := [], compress := some 0 } : Reading), rest)
    | ':' :: _ => none
    | _ => some (({ pieces := [], compress := none } : Reading), cs)
  let r ← readPieces (cs.length + 1) start rest
  match r.compress with
  | some before =>
    some (r.pieces.take before ++ List.replicate (8 - r.pieces.length) 0 ++ r.pieces.drop before)
  | none => if r.pieces.length == 8 then some r.pieces else none

/-- The longest run of two or more zero pieces, the first of equal ones: its start and length. -/
def longestZeroRun (pieces : List Nat) : Option (Nat × Nat) :=
  let runs := (pieces.zipIdx.splitBy fun a b => (a.1 == 0) == (b.1 == 0)).filterMap fun g =>
    match g with
    | (0, i) :: _ => some (i, g.length)
    | _ => none
  runs.foldl (fun best r =>
    if r.2 < 2 then best
    else match best with
      | some b => if r.2 > b.2 then some r else best
      | none => some r) none

def pieceText (v : Nat) : String := String.ofList (Nat.toDigits 16 v)

def serialize (pieces : List Nat) : String :=
  match longestZeroRun pieces with
  | some (s, len) =>
    ":".intercalate ((pieces.take s).map pieceText) ++ "::" ++
      ":".intercalate ((pieces.drop (s + len)).map pieceText)
  | none => ":".intercalate (pieces.map pieceText)

end VoiceSession.Net.Ipv6
