import VoiceSession.Toml.Lexer
import VoiceSession.Decimal.Read
/-!
# TOML lines

A document is read line by line into *tables*: a table header (`[a.b]`, or `[[a.b]]` for an
element of an array of tables) starts a table, and each `key = value` line adds a pair to the
current one; pairs before the first header form the root table. A dotted key `a.b = v` adds `v`
under `b` in a *dotted table* `a` of the current table, one that later dotted keys extend.
-/

namespace VoiceSession.Toml

/-- A value as written, with the offset it starts at. -/
inductive Raw where
  | integer (start : Nat) (i : Int)
  | float (start : Nat) (f : Float)
  | boolean (start : Nat) (b : Bool)
  | string (start : Nat) (s : String)
  | datetime (start : Nat) (text : String)
  | array (start : Nat) (items : List Raw)
  | inline (start : Nat) (pairs : List (String × Raw))
  | dotted (start : Nat) (pairs : List (String × Raw))
  deriving Inhabited

def Raw.start : Raw → Nat
  | .integer s _ | .float s _ | .boolean s _ | .string s _ | .datetime s _ | .array s _
  | .inline s _ | .dotted s _ => s

/-- A table: where its header is, the header's keys, its pairs (none for a header-less root
without pairs), and whether it is an element of an array of tables. -/
structure Table where
  offset : Nat
  header : List String
  values : Option (List (String × Raw))
  array : Bool
  deriving Inhabited

abbrev Reader := StateT Lexer (Except Error)

namespace Reader

def fail {α : Type} (e : Error) : Reader α := throw e

def current : Reader Nat := do return (← get).offset

def next : Reader (Option Spanned) := do
  match (← get).next with
  | .ok (t, lx) => set lx; return t
  | .error e => fail e

def peek : Reader (Option Spanned) := do
  match (← get).next with
  | .ok (t, _) => return t
  | .error e => fail e

def eatSpanned (t : Token) : Reader (Option Spanned) := do
  match ← peek with
  | some s => if s.token == t then next else return none
  | none => return none

def eat (t : Token) : Reader Bool := do return (← eatSpanned t).isSome

def expectSpanned (t : Token) : Reader Spanned := do
  let at₀ ← current
  match ← next with
  | some s => if s.token == t then return s else fail (.at_ at₀ (.wanted t.describe s.token.describe))
  | none => fail (.at_ (← current) (.wanted t.describe "eof"))

def expect (t : Token) : Reader Unit := do let _ ← expectSpanned t

def eatWhitespace : Reader Unit := modify fun lx => Lexer.skipBlanks lx.fuel lx

def eatNewlineOrEof : Reader Unit := do
  let at₀ ← current
  match ← next with
  | none => pure ()
  | some { token := .newline, .. } => pure ()
  | some s => fail (.at_ at₀ (.wanted "newline" s.token.describe))

def eatComment : Reader Bool := do
  let lx ← get
  if lx.peek != some '#' then return false
  set (Lexer.skipCommentBody lx.fuel lx.bump)
  eatNewlineOrEof
  return true

/-- Skips to the start of the next line. -/
def skipToNewline : Reader Unit := do
  let rec go : Nat → Lexer → Lexer
    | 0, lx => lx
    | n + 1, lx =>
      match lx.peek with
      | some '\n' => lx.bump
      | none => lx
      | some _ => go n lx.bump
  modify fun lx => go lx.fuel lx

/-- Reads one key: a bare word or a one-line string, which may be empty. -/
def tableKey : Reader String := do
  let at₀ ← current
  match ← next with
  | some { token := .keylike k, .. } => return k
  | some { token := .string v multiline, start, .. } =>
    if multiline then fail (.at_ start .multilineStringKey)
    else return v
  | some s => fail (.at_ at₀ (.wanted "a table key" s.token.describe))
  | none => fail (.at_ (← current) (.wanted "a table key" "eof"))

/-- Reads a key of one or more parts joined by periods. -/
def dottedKey : Reader (List String) := do
  let first ← tableKey
  eatWhitespace
  let rec more : Nat → List String → Reader (List String)
    | 0, acc => pure acc.reverse
    | n + 1, acc => do
      if ← eat .period then
        eatWhitespace
        let k ← tableKey
        eatWhitespace
        more n (k :: acc)
      else pure acc.reverse
  more (← get).fuel [first]

/-- Reads the header of a table whose lexer stands after `[` (and `[[`): its keys, then the
closing brackets and the end of the line. -/
def header (array : Bool) : Reader (List String) := do
  eatWhitespace
  let first ← tableKey
  let rec more : Nat → List String → Reader (List String)
    | 0, acc => pure acc.reverse
    | n + 1, acc => do
      eatWhitespace
      if ← eat .period then
        eatWhitespace
        more n ((← tableKey) :: acc)
      else
        expect .rightBracket
        if array then expect .rightBracket
        eatWhitespace
        if !(← eatComment) then eatNewlineOrEof
        pure acc.reverse
  more (← get).fuel [first]

/-! ## Numbers and dates -/

/-- Splits a numeral into its digits and what follows them, checking signs, leading zeros and
underscores; `offset` is where the numeral starts. -/
def splitInteger (s : String) (offset : Nat) (allowSign allowLeadingZeros : Bool) (radix : Nat) :
    Except Error (String × String) :=
  let isDigit (c : Char) : Bool :=
    if radix == 16 then c.isDigit || ('a' ≤ c && c ≤ 'f') || ('A' ≤ c && c ≤ 'F')
    else c.isDigit && c.toNat - 48 < radix
  let rec go : List Char → Nat → Bool → Bool → Bool → Except Error Nat
    | [], i, first, _, underscore =>
      if first || underscore then .error (.at_ offset .numberInvalid) else .ok i
    | c :: rest, i, first, firstZero, underscore =>
      if i == 0 && (c == '+' || c == '-') && allowSign then go rest (i + 1) first firstZero underscore
      else if c == '0' && first then go rest (i + 1) false true underscore
      else if isDigit c then
        if !first && firstZero && !allowLeadingZeros then .error (.at_ (offset + i) .numberInvalid)
        else go rest (i + 1) false firstZero false
      else if c == '_' && first then .error (.at_ (offset + i) .numberInvalid)
      else if c == '_' && !underscore then go rest (i + 1) false firstZero true
      else if first || underscore then .error (.at_ offset .numberInvalid)
      else .ok i
  match go s.toList 0 true false false with
  | .ok n => .ok (String.ofList (s.toList.take n), String.ofList (s.toList.drop n))
  | .error e => .error e

/-- Reads an integer in a radix: the digits must make the whole word and fit in 64 bits. -/
def integer (s : String) (offset : Nat) (radix : Nat) : Except Error Int := do
  let (digits, rest) ← splitInteger s offset (radix == 10) (radix != 10) radix
  if rest != "" then throw (.at_ offset .numberInvalid)
  let cs := (digits.toList.filter (· != '_')).dropWhile (· == '+')
  let (negative, cs) := match cs with
    | '-' :: r => (true, r)
    | '+' :: r => (false, r)
    | r => (false, r)
  if cs.isEmpty then throw (.at_ offset .numberInvalid)
  let value : Nat := cs.foldl (fun n c =>
    let d := if c.isDigit then c.toNat - 48 else if 'a' ≤ c then c.toNat - 87 else c.toNat - 55
    n * radix + d) 0
  let i : Int := if negative then -(value : Int) else value
  if Decimal.inInt64 i then return i else throw (.at_ offset .numberInvalid)

/-- Reads a float from its integral part `s` at `offset`, the word after a period if there was
one, and for an exponent written `e` alone the word the lexer reads next. -/
def float (s : String) (offset : Nat) (afterDecimal : Option (String × Nat)) : Reader Float := do
  let lift {α : Type} (r : Except Error α) : Reader α := match r with
    | .ok a => pure a
    | .error e => fail e
  let (integral, suffix) ← lift (splitInteger s offset true false 10)
  let (fraction, suffix, suffixOffset) ← match afterDecimal with
    | some (after, afterOffset) => do
      if suffix != "" then fail (.at_ offset .numberInvalid)
      let (a, b) ← lift (splitInteger after afterOffset false true 10)
      pure (some a, b, afterOffset + a.utf8ByteSize)
    | none => pure (none, suffix, offset + integral.utf8ByteSize)
  let exponent ← if suffix.startsWith "e" || suffix.startsWith "E" then do
      let (a, b) ← if suffix.length == 1 then do
          let _ ← eat .plus
          match ← next with
          | some { token := .keylike w, start, .. } => lift (splitInteger w start false true 10)
          | _ => fail (.at_ offset .numberInvalid)
        else lift (splitInteger (suffix.drop 1).toString (suffixOffset + 1) true true 10)
      if b != "" then fail (.at_ offset .numberInvalid)
      pure (some a)
    else if suffix != "" then fail (.at_ offset .numberInvalid)
    else pure none
  let clean (t : String) : String := String.ofList (t.toList.filter (· != '_'))
  let text := clean (String.ofList (integral.toList.dropWhile (· == '+'))) ++
    ((fraction.map fun f => "." ++ clean f).getD "") ++ ((exponent.map fun e => "E" ++ clean e).getD "")
  match Decimal.readFloat? text with
  | some f => if f.isFinite then return f else fail (.at_ offset .numberInvalid)
  | none => fail (.at_ offset .numberInvalid)

/-- Reads a date, a time or both from the word the lexer `origin` stands at, the word already
read; gives the text they span. `colonEaten` tells that the word was an hour already followed by
`:`. -/
def datetime (origin : Lexer) (colonEaten : Bool) : Reader Raw := do
  let start := origin.offset
  let lx ← get
  match lx.next with
  | .ok (some { token := .whitespace " ", .. }, lx2) =>
    match lx2.next with
    | .ok (some { token := .keylike _, .. }, _) =>
      let _ ← next
      let _ ← next
    | _ => pure ()
  | _ => pure ()
  let word : Reader Unit := do
    match ← next with
    | some { token := .keylike _, .. } => pure ()
    | _ => fail (.at_ start .dateInvalid)
  if colonEaten || (← eat .colon) then
    word
    expect .colon
    word
    if ← eat .period then word
    if ← eat .plus then word
    if ← eat .colon then word
  let used := origin.rest.length - (← get).rest.length
  return .datetime start (String.ofList (origin.rest.take used))

/-- Reads a number from the word `s` that the lexer `origin` stood at; the value starts at
`valueStart` (before a `+` sign, if there was one). -/
def number (origin : Lexer) (valueStart : Nat) (s : String) : Reader Raw := do
  let start := origin.offset
  let lift {α : Type} (r : Except Error α) : Reader α := match r with
    | .ok a => pure a
    | .error e => fail e
  if s.startsWith "0x" then return .integer valueStart (← lift (integer (s.drop 2).toString (start + 2) 16))
  else if s.startsWith "0o" then return .integer valueStart (← lift (integer (s.drop 2).toString (start + 2) 8))
  else if s.startsWith "0b" then return .integer valueStart (← lift (integer (s.drop 2).toString (start + 2) 2))
  else if s.contains 'e' || s.contains 'E' then return .float valueStart (← float s start none)
  else if ← eat .period then
    let at₀ ← current
    match ← next with
    | some { token := .keylike after, start := afterStart, .. } =>
      return .float afterStart (← float s start (some (after, afterStart)))
    | _ => fail (.at_ at₀ .numberInvalid)
  else if s == "inf" then return .float valueStart Decimal.infinity
  else if s == "-inf" then return .float valueStart (-Decimal.infinity)
  else if s == "nan" || s == "-nan" then return .float valueStart (0.0 / 0.0)
  else return .integer valueStart (← lift (integer s start 10))

def occurs (s sub : String) : Bool := (s.splitOn sub).length > 1

/-- Reads a number or a date from the word `s` that the lexer `origin` stood at. -/
def numberOrDate (origin : Lexer) (s : String) : Reader Raw := do
  let tail := (s.drop 1).toString
  if s.contains 'T' || s.contains 't' ||
      (s.length > 1 && tail.contains '-' && !(occurs s "e-") && !(occurs s "E-")) then
    datetime origin false
  else if ← eat .colon then datetime origin true
  else number origin origin.offset s

/-- Adds a value under a dotted key to a table's pairs. -/
def addDotted : List String → Raw → List (String × Raw) → Except Error (List (String × Raw))
  | [], _, values => .ok values
  | [k], v, values => .ok (values ++ [(k, v)])
  | k :: more, v, values =>
    match values.find? (·.1 == k) with
    | some (_, .dotted s pairs) => do
      let inner ← addDotted more v pairs
      let rec replace : List (String × Raw) → List (String × Raw)
        | [] => []
        | (k2, x) :: rest => if k2 == k then (k2, .dotted s inner) :: rest else (k2, x) :: replace rest
      .ok (replace values)
    | some (_, other) => .error (.at_ other.start .dottedKeyInvalidType)
    | none => do
      let inner ← addDotted more v []
      .ok (values ++ [(k, .dotted v.start inner)])

def intermediate : Nat → Reader Unit
  | 0 => pure ()
  | n + 1 => do
    eatWhitespace
    if (← eat .newline) || (← eatComment) then intermediate n

mutual

/-- Reads a value; `depth` bounds the nesting of arrays and inline tables. -/
def value : Nat → Reader Raw
  | 0 => do fail (.at_ (← current) .unexpectedEof)
  | depth + 1 => do
    let at₀ ← current
    let origin ← get
    match ← next with
    | some { token := .string v _, start, .. } => return .string start v
    | some { token := .keylike "true", start, .. } => return .boolean start true
    | some { token := .keylike "false", start, .. } => return .boolean start false
    | some { token := .keylike k, .. } =>
      let numeric := match k.toList.head? with
        | some c => c == '-' || c.isDigit
        | none => false
      if k == "inf" || k == "nan" || numeric then numberOrDate origin k
      else fail (.at_ at₀ .unquotedString)
    | some { token := .plus, start, .. } =>
      let at₁ ← current
      let origin₁ ← get
      match ← next with
      | some { token := .keylike s, .. } => number origin₁ start s
      | _ => fail (.at_ at₁ .numberInvalid)
    | some { token := .leftBrace, start, .. } => return .inline start (← inlineTable depth)
    | some { token := .leftBracket, start, .. } => return .array start (← array depth)
    | some s => fail (.at_ at₀ (.wanted "a value" s.token.describe))
    | none => fail (.at_ (← current) .unexpectedEof)

/-- Reads the pairs of an inline table whose `{` was read. -/
def inlineTable : Nat → Reader (List (String × Raw))
  | 0 => pure []
  | depth + 1 => do
    eatWhitespace
    if (← eatSpanned .rightBrace).isSome then return []
    let rec pairs : Nat → List (String × Raw) → Reader (List (String × Raw))
      | 0, acc => pure acc
      | n + 1, acc => do
        let key ← dottedKey
        eatWhitespace
        expect .equals
        eatWhitespace
        let v ← value depth
        let acc ← match addDotted key v acc with
          | .ok a => pure a
          | .error e => fail e
        eatWhitespace
        if (← eatSpanned .rightBrace).isSome then return acc
        expect .comma
        eatWhitespace
        pairs n acc
    pairs (← get).fuel []

/-- Reads the items of an array whose `[` was read. -/
def array : Nat → Reader (List Raw)
  | 0 => pure []
  | depth + 1 => do
    let rec items : Nat → List Raw → Reader (List Raw)
      | 0, acc => pure acc.reverse
      | n + 1, acc => do
        intermediate (← get).fuel
        if (← eatSpanned .rightBracket).isSome then return acc.reverse
        let v ← value depth
        intermediate (← get).fuel
        if ← eat .comma then items n (v :: acc)
        else
          intermediate (← get).fuel
          let _ ← expectSpanned .rightBracket
          return (v :: acc).reverse
    items (← get).fuel []

end

inductive Line where
  | table (offset : Nat) (headerAt : Lexer) (array : Bool)
  | pair (key : List String) (value : Raw)

/-- Reads the next line that is not blank or a comment. -/
def line : Reader (Option Line) := do
  let rec skip : Nat → Reader Unit
    | 0 => pure ()
    | n + 1 => do
      eatWhitespace
      if ← eatComment then skip n
      else if ← eat .newline then skip n
      else pure ()
  skip (← get).fuel
  match ← peek with
  | some { token := .leftBracket, .. } =>
    let start ← current
    expect .leftBracket
    let array ← eat .leftBracket
    let headerAt ← get
    skipToNewline
    return some (.table start headerAt array)
  | some _ =>
    let key ← dottedKey
    eatWhitespace
    expect .equals
    eatWhitespace
    let v ← value (← get).fuel
    eatWhitespace
    if !(← eatComment) then eatNewlineOrEof
    return some (.pair key v)
  | none => return none

/-- Reads a document into its tables. -/
def tables : Reader (List Table) := do
  let keep (t : Table) : Bool := !t.header.isEmpty || t.values.isSome
  let rec go : Nat → List Table → Table → Reader (List Table)
    | 0, acc, cur => pure (if keep cur then (cur :: acc).reverse else acc.reverse)
    | n + 1, acc, cur => do
      match ← line with
      | none => pure (if keep cur then (cur :: acc).reverse else acc.reverse)
      | some (.table start headerAt array) =>
        let acc := if keep cur then cur :: acc else acc
        let keys ← match (header array).run headerAt with
          | .ok (ks, _) => pure ks
          | .error e => fail e
        go n acc { offset := start, header := keys, values := some [], array := array }
      | some (.pair key v) =>
        match addDotted key v (cur.values.getD []) with
        | .ok vs => go n acc { cur with values := some vs }
        | .error e => fail e
  go (← get).fuel [] { offset := 0, header := [], values := none, array := false }

end Reader

end VoiceSession.Toml
