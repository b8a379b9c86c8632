import VoiceSession.Toml.Parser
import VoiceSession.Decimal.Layout
/-!
# TOML documents

The tables read from a document are put together into one tree of values. The tables are
visited in the order their headers appear, descending header by header; the pairs of a table
and the tables below it become the members of one map. This is where a document can be
inconsistent even though each line is well formed:
-/

namespace VoiceSession.Toml

/-- A TOML value. -/
inductive Doc where
  | string (s : String)
  | integer (i : Int)
  | float (f : Float)
  | boolean (b : Bool)
  | datetime (text : String)
  | array (items : List Doc)
  | table (pairs : List (String × Doc))
  deriving Inhabited

/-! ## Dates and times -/

def twoDigits : List Char → Option (Nat × List Char)
  | a :: b :: rest => if a.isDigit && b.isDigit then some ((a.toNat - 48) * 10 + b.toNat - 48, rest) else none
  | _ => none

def padded (width n : Nat) : String :=
  let s := toString n
  String.ofList (List.replicate (width - s.length) '0') ++ s

/-- Reads a time `hh:mm:ss` with an optional fraction; gives its text. -/
def readTime (cs : List Char) : Option (String × List Char) := do
  let (h, cs) ← twoDigits cs
  let cs ← match cs with
    | ':' :: r => some r
    | _ => none
  let (m, cs) ← twoDigits cs
  let cs ← match cs with
    | ':' :: r => some r
    | _ => none
  let (s, cs) ← twoDigits cs
  let (nanos, cs) ← match cs with
    | '.' :: r =>
      let ds := r.takeWhile Char.isDigit
      if ds.isEmpty then none
      else
        let nine := (ds.take 9) ++ List.replicate (9 - min 9 ds.length) '0'
        some (nine.foldl (fun n c => n * 10 + c.toNat - 48) 0, r.drop ds.length)
    | r => some (0, r)
  if h > 24 || m > 59 || s > 59 then none
  let fraction := if nanos == 0 then ""
    else "." ++ String.ofList ((padded 9 nanos).toList.reverse.dropWhile (· == '0')).reverse
  return (padded 2 h ++ ":" ++ padded 2 m ++ ":" ++ padded 2 s ++ fraction, cs)

/-- Reads a date, a time, or a date and a time with an optional offset; gives its normal form. -/
def normalDatetime (text : String) : Option String := do
  let cs := text.toList
  if cs.length < 3 then none
  let timeOnly := (cs.drop 2).head? == some (Char.ofNat 58)
  let (date, cs) ← if timeOnly then some ("", cs) else do
    let y ← (cs.take 4).foldlM (fun n c => if c.isDigit then some (n * 10 + c.toNat - 48) else none) 0
    if cs.length < 4 then none
    let cs := cs.drop 4
    let cs ← match cs with
      | '-' :: r => some r
      | _ => none
    let (mo, cs) ← twoDigits cs
    let cs ← match cs with
      | '-' :: r => some r
      | _ => none
    let (d, cs) ← twoDigits cs
    if mo < 1 || mo > 12 || d < 1 || d > 31 then none
    some (padded 4 y ++ "-" ++ padded 2 mo ++ "-" ++ padded 2 d, cs)
  let (time, cs) ← match cs with
    | c :: r =>
      if !timeOnly && (c == 'T' || c == 't' || c == ' ') then
        (readTime r).map fun (t, rest) => (some t, rest)
      else if timeOnly then (readTime cs).map fun (t, rest) => (some t, rest)
      else some (none, cs)
    | [] => if timeOnly then none else some (none, [])
  let offsetAllowed := !timeOnly && time.isSome
  let (offset, cs) ← if !offsetAllowed then some ("", cs) else
    match cs with
    | 'Z' :: r | 'z' :: r => some ("Z", r)
    | [] => some ("", [])
    | c :: r =>
      if c == '+' || c == '-' then do
        let (h, r) ← twoDigits r
        let r ← match r with
          | ':' :: r2 => some r2
          | _ => none
        let (m, r) ← twoDigits r
        let sign := if c == '-' && h != 0 then "-" else "+"
        some (sign ++ padded 2 h ++ ":" ++ padded 2 m, r)
      else none
  if !cs.isEmpty then none
  let joined := match time with
    | some t => if date.isEmpty then t else date ++ "T" ++ t
    | none => date
  return joined ++ offset

/-! ## Values -/

def duplicateKey (k : String) : Error := { kind := .custom ("duplicate key: `" ++ k ++ "`") }

def datetimeKey : String := "$__toml_private_datetime"

/-- The error of a value under the date-time key that is not a string; `found` names what it
is. -/
def notDatetime (found : String) : Error :=
  { kind := .custom ("invalid type: " ++ found ++ ", expected string containing a datetime") }

/-- The date or time given by a value under the date-time key: a string in date-time form.
Errors are placed at the value. -/
def Raw.datetimeValue : Raw → Except Error String
  | .string start s =>
    match normalDatetime s with
    | some t => .ok t
    | none => .error (.at_ start (.custom "failed to parse datetime"))
  | .integer start i => .error ((notDatetime ("integer `" ++ toString i ++ "`")).placeAt (some start))
  | .float start f =>
    .error ((notDatetime ("floating point `" ++ Decimal.Layout.pointed.writeAll f ++ "`")).placeAt
      (some start))
  | .boolean start b => .error ((notDatetime ("boolean `" ++ toString b ++ "`")).placeAt (some start))
  | .array start _ => .error ((notDatetime "sequence").placeAt (some start))
  | .datetime start _ | .inline start _ | .dotted start _ =>
    .error ((notDatetime "map").placeAt (some start))

mutual

/-- Turns a value as written into a TOML value; errors are placed at the value. -/
def Raw.toDoc : Raw → Except Error Doc
  | .integer _ i => .ok (.integer i)
  | .float _ f => .ok (.float f)
  | .boolean _ b => .ok (.boolean b)
  | .string _ s => .ok (.string s)
  | .datetime start text =>
    match normalDatetime text with
    | some t => .ok (.datetime t)
    | none => .error (.at_ start (.custom "failed to parse datetime"))
  | .array start items =>
    match Raw.itemsToDoc items with
    | .ok ds => .ok (.array ds)
    | .error e => .error (e.placeAt (some start))
  | .inline start pairs | .dotted start pairs =>
    match pairs with
    | (k, r) :: _ =>
      if k == datetimeKey then Doc.datetime <$> r.datetimeValue
      else
        match Raw.pairsToDoc pairs [] with
        | .ok ps => .ok (.table ps)
        | .error e => .error (e.placeAt (some start))
    | [] => .ok (.table [])

def Raw.itemsToDoc : List Raw → Except Error (List Doc)
  | [] => .ok []
  | r :: rest => do
    let d ← r.toDoc
    let ds ← Raw.itemsToDoc rest
    return d :: ds

/-- The pairs of an inline or dotted table, refusing a key given twice. -/
def Raw.pairsToDoc : List (String × Raw) → List (String × Doc) → Except Error (List (String × Doc))
  | [], acc => .ok acc.reverse
  | (k, r) :: rest, acc =>
    if acc.any (·.1 == k) then .error (duplicateKey k)
    else do
      let d ← r.toDoc
      Raw.pairsToDoc rest ((k, d) :: acc)

end

/-! ## Putting the tables together -/

/-- Where a map being read stands: the pairs of the current table still to read, how many
header keys are above it, the next table to look at, the table it belongs to, and the first
table it may not reach. -/
structure Cursor where
  values : List (String × Raw) := []
  depth : Nat
  cur : Nat := 0
  parent : Nat
  limit : Nat

inductive Entry where
  | value (r : Raw)
  | child

def tableAt (ts : Array Table) (i : Nat) : Table := ts.getD i default

/-- The next key of a map, and what it leads to. -/
def nextEntry (ts : Array Table) : Nat → Cursor → Except Error (Option (String × Entry) × Cursor × Array Table)
  | 0, c => .ok (none, c, ts)
  | fuel + 1, c =>
    match c.values with
    | (k, v) :: rest => .ok (some (k, .value v), { c with values := rest }, ts)
    | [] =>
      let above := (tableAt ts c.parent).header.take c.depth
      let found := (List.range ts.size).find? fun i =>
        c.cur ≤ i && i < c.limit && above.isPrefixOf (tableAt ts i).header && (tableAt ts i).values.isSome
      match found with
      | none => .ok (none, c, ts)
      | some pos =>
        let c := { c with cur := pos }
        let parentTable := tableAt ts c.parent
        let t := tableAt ts pos
        if c.parent != pos && parentTable.header == t.header then
          .error (.at_ t.offset (.duplicateTable (".".intercalate t.header)))
        else
          let c := if c.parent != pos && t.header.length < parentTable.header.length then
            { c with parent := pos } else c
          if c.depth != t.header.length then
            .ok (some (t.header.getD c.depth "", .child), c, ts)
          else if t.array then .error (.at_ t.offset .redefineAsArray)
          else
            nextEntry (ts.set! pos { t with values := none }) fuel { c with values := t.values.getD [] }

mutual

/-- Reads a map: a value visitor over the keys the cursor leads to, refusing a key twice, or
the date or time of a map whose first key is the date-time key. -/
def visitMap : Nat → Array Table → Cursor → Except Error (Doc × Cursor × Array Table)
  | 0, ts, c => .ok (.table [], c, ts)
  | fuel + 1, ts, c => do
    let rec loop : Nat → Array Table → Cursor → List (String × Doc) →
        Except Error (Doc × Cursor × Array Table)
      | 0, ts, c, acc => .ok (.table acc.reverse, c, ts)
      | n + 1, ts, c, acc => do
        let (entry, c, ts) ← nextEntry ts (ts.size + 1) c
        match entry with
        | none => .ok (.table acc.reverse, c, ts)
        | some (k, e) =>
          if acc.isEmpty && k == datetimeKey then
            match e with
            | .value r =>
              match r.datetimeValue with
              | .ok t => .ok (.datetime t, c, ts)
              | .error err => .error (err.underKey k)
            | .child =>
              let t := tableAt ts c.cur
              let found := if t.array && c.depth + 1 == t.header.length then "sequence" else "map"
              .error ((notDatetime found).underKey k)
          else if acc.any (·.1 == k) then .error (duplicateKey k)
          else
            let (d, c, ts) ← visitValue fuel ts c k e
            loop n ts c ((k, d) :: acc)
    if c.parent == c.limit || c.cur == c.limit then .ok (.table [], c, ts)
    else loop (ts.size + (ts.toList.map fun t => (t.values.getD []).length).foldl (· + ·) 0 + 1) ts c []

/-- Reads the value a key leads to. -/
def visitValue : Nat → Array Table → Cursor → String → Entry → Except Error (Doc × Cursor × Array Table)
  | 0, ts, c, _, _ => .ok (.table [], c, ts)
  | fuel + 1, ts, c, k, e =>
    match e with
    | .value r =>
      match r.toDoc with
      | .ok d => .ok (d, c, ts)
      | .error err => .error (err.underKey k)
    | .child =>
      let t := tableAt ts c.cur
      let array := t.array && c.depth + 1 == t.header.length
      let c := { c with cur := c.cur + 1 }
      let inner : Cursor := { depth := c.depth + (if array then 0 else 1), parent := c.cur - 1, limit := c.limit }
      let result := if array then visitSeq fuel ts inner else visitMap fuel ts inner
      match result with
      | .ok (d, _, ts) => .ok (d, c, ts)
      | .error err => .error (err.underKey ((tableAt ts (c.cur - 1)).header.getD c.depth ""))

/-- Reads an array of tables: one map per element header. -/
def visitSeq : Nat → Array Table → Cursor → Except Error (Doc × Cursor × Array Table)
  | 0, ts, c => .ok (.array [], c, ts)
  | fuel + 1, ts, c => do
    let rec loop : Nat → Array Table → Cursor → List Doc → Except Error (Doc × Cursor × Array Table)
      | 0, ts, c, acc => .ok (.array acc.reverse, c, ts)
      | n + 1, ts, c, acc => do
        if c.parent == c.limit then .ok (.array acc.reverse, c, ts)
        else
          let header := (tableAt ts c.parent).header
          let next := ((List.range ts.size).find? fun i =>
            c.parent + 1 ≤ i && i < c.limit && (tableAt ts i).header == header && (tableAt ts i).array).getD c.limit
          let t := tableAt ts c.parent
          let element : Cursor :=
            { values := t.values.getD [], depth := c.depth + 1, parent := c.parent, limit := next }
          let ts := ts.set! c.parent { t with values := none }
          let (d, _, ts) ← visitMap fuel ts element
          loop n ts { c with parent := next } (d :: acc)
    loop (ts.size + 1) ts c []

end

/-- Reads a TOML document. -/
def Doc.read (text : String) : Except Error Doc := do
  let (tables, _) ← Reader.tables.run (Lexer.ofText text)
  let ts := tables.toArray
  -- each header key costs at most three nested visits: a value, an array of tables, a map
  let depth := (tables.map (·.header.length)).foldl max 0 + 2
  match visitMap (4 * depth) ts { depth := 0, parent := 0, limit := ts.size } with
  | .ok (d, _, _) => .ok d
  | .error e => .error (e.placeAt (ts.back?.map (·.offset)))

end VoiceSession.Toml
