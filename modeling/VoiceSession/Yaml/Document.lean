import VoiceSession.Yaml.Scanner
import VoiceSession.Decimal.Read
/-!
# YAML documents

The parser reads the tokens into events (a state machine over the grammar of block and flow
collections), and the loader builds one node per document from them. Anchors name nodes
within a document; an alias stands for a copy of the node its anchor named once that node was
complete, and for a bad value otherwise.
-/

namespace VoiceSession.Yaml

/-- A loaded node. -/
inductive Node where
  | real (text : String)
  | integer (i : Int)
  | string (s : String)
  | boolean (b : Bool)
  | array (items : List Node)
  | hash (entries : List (Node × Node))
  | null
  | badValue
  deriving Inhabited

/-- Whether two nodes are the same key: scalars of one kind with one value. -/
def Node.sameKey : Node → Node → Bool
  | .real a, .real b => a == b
  | .integer a, .integer b => a == b
  | .string a, .string b => a == b
  | .boolean a, .boolean b => a == b
  | .null, .null => true
  | .badValue, .badValue => true
  | _, _ => false

/-- An event of the parse. -/
inductive Event where
  | streamStart
  | streamEnd
  | documentStart
  | documentEnd
  | alias (id : Nat)
  | scalar (text : String) (style : Style) (anchor : Nat) (tag : Option (String × String))
  | sequenceStart (anchor : Nat)
  | sequenceEnd
  | mappingStart (anchor : Nat)
  | mappingEnd

def Event.empty : Event := .scalar "~" .plain 0 none

/-- Where the parser is in the grammar. -/
inductive State where
  | streamStart
  | implicitDocumentStart
  | documentStart
  | documentContent
  | documentEnd
  | blockNode
  | blockSequenceFirstEntry
  | blockSequenceEntry
  | indentlessSequenceEntry
  | blockMappingFirstKey
  | blockMappingKey
  | blockMappingValue
  | flowSequenceFirstEntry
  | flowSequenceEntry
  | flowSequenceEntryMappingKey
  | flowSequenceEntryMappingValue
  | flowSequenceEntryMappingEnd
  | flowMappingFirstKey
  | flowMappingKey
  | flowMappingValue
  | flowMappingEmptyValue
  | finished
  deriving DecidableEq

/-- The parser: the scanner, the grammar states, the token looked at, and the anchors. -/
structure Parser where
  scanner : Scanner
  states : List State := []
  state : State := .streamStart
  token : Option (Mark × Token) := none
  anchors : List (String × Nat) := []
  anchorId : Nat := 1
  named : List (Nat × Node) := []
  budget : Nat := 16

abbrev ParseM := StateT Parser (Except Error)

namespace Parse

def fail {α : Type} (mark : Mark) (info : String) : ParseM α := throw { mark := mark, info := info }

/-- Runs a scanning step on the parser's scanner. -/
def scan {α : Type} (m : ScanM α) : ParseM α := do
  let p ← get
  match m.run p.scanner with
  | .ok (a, s) =>
    set { p with scanner := s }
    return a
  | .error e => throw e

/-- The token looked at. -/
def peekToken : ParseM (Mark × Token) := do
  match (← get).token with
  | some t => return t
  | none =>
    match ← scan Scan.nextToken with
    | some t =>
      modify fun p => { p with token := some t }
      return t
    | none => fail (← get).scanner.mark "unexpected eof"

def skipToken : ParseM Unit := modify fun p => { p with token := none }

def setState (s : State) : ParseM Unit := modify fun p => { p with state := s }

def pushState (s : State) : ParseM Unit := modify fun p => { p with states := s :: p.states }

def popState : ParseM Unit :=
  modify fun p => { p with state := p.states.headD .finished, states := p.states.tail }

/-- Skips directive tokens. -/
def processDirectives : Nat → ParseM Unit
  | 0 => pure ()
  | n + 1 => do
    match (← peekToken).2 with
    | .versionDirective _ _ | .tagDirective _ _ =>
      skipToken
      processDirectives n
    | _ => pure ()

/-- Fuel for a loop over tokens or events: the bound on the events of the whole stream. The
scanner may have read far ahead of the token looked at, so what it has left does not bound
them. -/
def fuel : ParseM Nat := return (← get).budget

/-- Starts an explicit document at `---`. -/
def explicitDocumentStart : ParseM (Event × Mark) := do
  processDirectives (← fuel)
  match ← peekToken with
  | (m, .documentStart) =>
    pushState .documentEnd
    setState .documentContent
    skipToken
    return (.documentStart, m)
  | (m, _) => fail m "did not find expected <document start>"

def skipDocumentEnds : Nat → ParseM Unit
  | 0 => pure ()
  | n + 1 => do
    if (← peekToken).2 == .documentEnd then
      skipToken
      skipDocumentEnds n

/-- Starts a document, or ends the stream. -/
def documentStart (implicit : Bool) : ParseM (Event × Mark) := do
  if !implicit then skipDocumentEnds (← fuel)
  match ← peekToken with
  | (m, .streamEnd) =>
    setState .finished
    skipToken
    return (.streamEnd, m)
  | (_, .versionDirective _ _) | (_, .tagDirective _ _) | (_, .documentStart) => explicitDocumentStart
  | (m, _) =>
    if implicit then
      processDirectives (← fuel)
      pushState .documentEnd
      setState .blockNode
      return (.documentStart, m)
    else explicitDocumentStart

/-- Ends a document. -/
def documentEnd : ParseM (Event × Mark) := do
  let m ← match ← peekToken with
    | (m, .documentEnd) => do
      skipToken
      pure m
    | (m, _) => pure m
  setState .documentStart
  return (.documentEnd, m)

def registerAnchor (name : String) : ParseM Nat := do
  let p ← get
  set { p with anchorId := p.anchorId + 1, anchors := (name, p.anchorId) :: p.anchors }
  return p.anchorId

/-- Reads a node: its anchor and tag, then a scalar, an alias or the start of a collection. -/
def parseNode (block indentlessSequence : Bool) : ParseM (Event × Mark) := do
  match ← peekToken with
  | (m, .alias name) =>
    popState
    skipToken
    match (← get).anchors.lookup name with
    | some id => return (.alias id, m)
    | none => fail m "while parsing node, found unknown anchor"
  | _ =>
    let (anchorNumber, tag) ← match ← peekToken with
      | (_, .anchor name) => do
        skipToken
        let id ← registerAnchor name
        match ← peekToken with
        | (_, .tag h s) =>
          skipToken
          pure (id, some (h, s))
        | _ => pure (id, none)
      | (_, .tag h s) => do
        skipToken
        match ← peekToken with
        | (_, .anchor name) =>
          skipToken
          pure (← registerAnchor name, some (h, s))
        | _ => pure (0, some (h, s))
      | _ => pure (0, none)
    match ← peekToken with
    | (m, .blockEntry) =>
      if indentlessSequence then
        setState .indentlessSequenceEntry
        return (.sequenceStart anchorNumber, m)
      else if tag.isSome || anchorNumber > 0 then
        popState
        return (.scalar "" .plain anchorNumber tag, m)
      else fail m "while parsing a node, did not find expected node content"
    | (m, .scalar style v) =>
      popState
      skipToken
      return (.scalar v style anchorNumber tag, m)
    | (m, .flowSequenceStart) =>
      setState .flowSequenceFirstEntry
      return (.sequenceStart anchorNumber, m)
    | (m, .flowMappingStart) =>
      setState .flowMappingFirstKey
      return (.mappingStart anchorNumber, m)
    | (m, t) =>
      if block && t == .blockSequenceStart then
        setState .blockSequenceFirstEntry
        return (.sequenceStart anchorNumber, m)
      else if block && t == .blockMappingStart then
        setState .blockMappingFirstKey
        return (.mappingStart anchorNumber, m)
      else if tag.isSome || anchorNumber > 0 then
        popState
        return (.scalar "" .plain anchorNumber tag, m)
      else fail m "while parsing a node, did not find expected node content"

/-- Reads a key of a block mapping. -/
def blockMappingKey (first : Bool) : ParseM (Event × Mark) := do
  if first then
    let _ ← peekToken
    skipToken
  match ← peekToken with
  | (_, .key) =>
    skipToken
    match ← peekToken with
    | (m, .key) | (m, .value) | (m, .blockEnd) =>
      setState .blockMappingValue
      return (Event.empty, m)
    | _ =>
      pushState .blockMappingValue
      parseNode true true
  | (m, .value) =>
    setState .blockMappingValue
    return (Event.empty, m)
  | (m, .blockEnd) =>
    popState
    skipToken
    return (.mappingEnd, m)
  | (m, _) => fail m "while parsing a block mapping, did not find expected key"

/-- Reads a value of a block mapping. -/
def blockMappingValue : ParseM (Event × Mark) := do
  match ← peekToken with
  | (_, .value) =>
    skipToken
    match ← peekToken with
    | (m, .key) | (m, .value) | (m, .blockEnd) =>
      setState .blockMappingKey
      return (Event.empty, m)
    | _ =>
      pushState .blockMappingKey
      parseNode true true
  | (m, _) =>
    setState .blockMappingKey
    return (Event.empty, m)

/-- Reads a key of a flow mapping. -/
def flowMappingKey (first : Bool) : ParseM (Event × Mark) := do
  if first then
    let _ ← peekToken
    skipToken
  let finish (m : Mark) : ParseM (Event × Mark) := do
    popState
    skipToken
    return (.mappingEnd, m)
  match ← peekToken with
  | (m, .flowMappingEnd) => finish m
  | (m, _) =>
    if !first then
      match ← peekToken with
      | (_, .flowEntry) => skipToken
      | (m2, _) => fail m2 "while parsing a flow mapping, did not find expected ',' or '\x7d'"
    match ← peekToken with
    | (_, .key) =>
      skipToken
      match ← peekToken with
      | (m2, .value) | (m2, .flowEntry) | (m2, .flowMappingEnd) =>
        setState .flowMappingValue
        return (Event.empty, m2)
      | _ =>
        pushState .flowMappingValue
        parseNode false false
    | (m2, .value) =>
      setState .flowMappingValue
      return (Event.empty, m2)
    | (_, .flowMappingEnd) => finish m
    | _ =>
      pushState .flowMappingEmptyValue
      parseNode false false

/-- Reads a value of a flow mapping; `empty` when the key had no `:`. -/
def flowMappingValue (empty : Bool) : ParseM (Event × Mark) := do
  if empty then
    let (m, _) ← peekToken
    setState .flowMappingKey
    return (Event.empty, m)
  else
    match ← peekToken with
    | (m, .value) =>
      skipToken
      match (← peekToken).2 with
      | .flowEntry | .flowMappingEnd =>
        setState .flowMappingKey
        return (Event.empty, m)
      | _ =>
        pushState .flowMappingKey
        parseNode false false
    | (m, _) =>
      setState .flowMappingKey
      return (Event.empty, m)

/-- Reads an entry of a flow sequence. -/
def flowSequenceEntry (first : Bool) : ParseM (Event × Mark) := do
  if first then
    let _ ← peekToken
    skipToken
  match ← peekToken with
  | (m, .flowSequenceEnd) =>
    popState
    skipToken
    return (.sequenceEnd, m)
  | (m, t) =>
    if !first then
      if t == .flowEntry then skipToken
      else fail m "while parsing a flow sequence, expected ',' or ']'"
    match ← peekToken with
    | (m2, .flowSequenceEnd) =>
      popState
      skipToken
      return (.sequenceEnd, m2)
    | (m2, .key) =>
      setState .flowSequenceEntryMappingKey
      skipToken
      return (.mappingStart 0, m2)
    | _ =>
      pushState .flowSequenceEntry
      parseNode false false

/-- Reads an entry of a sequence written without indentation under a mapping key. -/
def indentlessSequenceEntry : ParseM (Event × Mark) := do
  match ← peekToken with
  | (_, .blockEntry) =>
    skipToken
    match ← peekToken with
    | (m, .blockEntry) | (m, .key) | (m, .value) | (m, .blockEnd) =>
      setState .indentlessSequenceEntry
      return (Event.empty, m)
    | _ =>
      pushState .indentlessSequenceEntry
      parseNode true false
  | (m, _) =>
    popState
    return (.sequenceEnd, m)

/-- Reads an entry of a block sequence. -/
def blockSequenceEntry (first : Bool) : ParseM (Event × Mark) := do
  if first then
    let _ ← peekToken
    skipToken
  match ← peekToken with
  | (m, .blockEnd) =>
    popState
    skipToken
    return (.sequenceEnd, m)
  | (_, .blockEntry) =>
    skipToken
    match ← peekToken with
    | (m, .blockEntry) | (m, .blockEnd) =>
      setState .blockSequenceEntry
      return (Event.empty, m)
    | _ =>
      pushState .blockSequenceEntry
      parseNode true false
  | (m, _) => fail m "while parsing a block collection, did not find expected '-' indicator"

/-- Reads the key of a one-pair mapping inside a flow sequence. -/
def flowSequenceEntryMappingKey : ParseM (Event × Mark) := do
  match ← peekToken with
  | (m, .value) | (m, .flowEntry) | (m, .flowSequenceEnd) =>
    skipToken
    setState .flowSequenceEntryMappingValue
    return (Event.empty, m)
  | _ =>
    pushState .flowSequenceEntryMappingValue
    parseNode false false

/-- Reads the value of a one-pair mapping inside a flow sequence. -/
def flowSequenceEntryMappingValue : ParseM (Event × Mark) := do
  match ← peekToken with
  | (_, .value) =>
    skipToken
    match ← peekToken with
    | (m, .flowEntry) | (m, .flowSequenceEnd) =>
      setState .flowSequenceEntryMappingEnd
      return (Event.empty, m)
    | _ =>
      pushState .flowSequenceEntryMappingEnd
      parseNode false false
  | (m, _) =>
    setState .flowSequenceEntryMappingEnd
    return (Event.empty, m)

/-- The next event. -/
def next : ParseM (Event × Mark) := do
  match (← get).state with
  | .streamStart =>
    match ← peekToken with
    | (m, .streamStart) =>
      setState .implicitDocumentStart
      skipToken
      return (.streamStart, m)
    | (m, _) => fail m "did not find expected <stream-start>"
  | .implicitDocumentStart => documentStart true
  | .documentStart => documentStart false
  | .documentContent =>
    match ← peekToken with
    | (m, .versionDirective _ _) | (m, .tagDirective _ _) | (m, .documentStart) | (m, .documentEnd)
    | (m, .streamEnd) =>
      popState
      return (Event.empty, m)
    | _ => parseNode true false
  | .documentEnd => documentEnd
  | .blockNode => parseNode true false
  | .blockMappingFirstKey => blockMappingKey true
  | .blockMappingKey => blockMappingKey false
  | .blockMappingValue => blockMappingValue
  | .blockSequenceFirstEntry => blockSequenceEntry true
  | .blockSequenceEntry => blockSequenceEntry false
  | .flowSequenceFirstEntry => flowSequenceEntry true
  | .flowSequenceEntry => flowSequenceEntry false
  | .flowMappingFirstKey => flowMappingKey true
  | .flowMappingKey => flowMappingKey false
  | .flowMappingValue => flowMappingValue false
  | .indentlessSequenceEntry => indentlessSequenceEntry
  | .flowSequenceEntryMappingKey => flowSequenceEntryMappingKey
  | .flowSequenceEntryMappingValue => flowSequenceEntryMappingValue
  | .flowSequenceEntryMappingEnd =>
    setState .flowSequenceEntry
    return (.mappingEnd, (← get).scanner.mark)
  | .flowMappingEmptyValue => flowMappingValue true
  | .finished => return (.streamEnd, (← get).scanner.mark)

end Parse

/-! ## Scalars -/

/-- Reads a signed integer in a radix, in the signed 64-bit range. -/
def readRadix (radix : Nat) (s : String) : Option Int :=
  let (negative, ds) := match s.toList with
    | '-' :: r => (true, r)
    | '+' :: r => (false, r)
    | r => (false, r)
  let digit (c : Char) : Option Nat :=
    let v := if '0' ≤ c && c ≤ '9' then c.toNat - 48
      else if 'a' ≤ c && c ≤ 'z' then c.toNat - 87
      else if 'A' ≤ c && c ≤ 'Z' then c.toNat - 55 else radix
    if v < radix then some v else none
  if ds.isEmpty then none
  else
    match ds.foldlM (fun n c => (digit c).map fun d => n * radix + d) 0 with
    | some n =>
      let v : Int := if negative then -(n : Int) else n
      if Decimal.inInt64 v then some v else none
    | none => none

/-- Whether a text is a floating-point number: one of the spellings `.inf`, `.Inf`, `.INF`
(signed or not), `.nan`, `NaN`, `.NAN`, or decimal text that reads as a double. -/
def isReal (v : String) : Bool :=
  [".inf", ".Inf", ".INF", "+.inf", "+.Inf", "+.INF", "-.inf", "-.Inf", "-.INF", ".nan", "NaN",
    ".NAN"].contains v || (Decimal.readFloat? v).isSome

/-- The node a plain scalar without a tag stands for. -/
def resolvePlain (v : String) : Node :=
  let hex := if v.startsWith "0x" then readRadix 16 (v.drop 2).toString else none
  let octal := if v.startsWith "0o" then readRadix 8 (v.drop 2).toString else none
  let signed := if v.startsWith "+" then Decimal.readInt? (v.drop 1).toString else none
  match hex, octal, signed with
  | some i, _, _ => .integer i
  | none, some i, _ => .integer i
  | none, none, some i => .integer i
  | none, none, none =>
    if v == "~" || v == "null" then .null
    else if v == "true" then .boolean true
    else if v == "false" then .boolean false
    else match Decimal.readInt? v with
      | some i => .integer i
      | none => if isReal v then .real v else .string v

/-- The node a scalar stands for. -/
def resolveScalar (v : String) (style : Style) (tag : Option (String × String)) : Node :=
  if style != .plain then .string v
  else
    match tag with
    | some (handle, suffix) =>
      if handle == "!!" then
        if suffix == "bool" then
          (if v == "true" then .boolean true else if v == "false" then .boolean false else .badValue)
        else if suffix == "int" then
          match Decimal.readInt? v with
          | some i => .integer i
          | none => .badValue
        else if suffix == "float" then (if isReal v then .real v else .badValue)
        else if suffix == "null" then (if v == "~" || v == "null" then .null else .badValue)
        else .string v
      else .string v
    | none => resolvePlain v

/-! ## Loading -/

/-- Pairs the nodes of a mapping as keys and values: a bad value never stays a key, so the node
after it takes its place. A key given again keeps the later value and moves to the end. -/
def pairUp : List Node → Option Node → List (Node × Node) → List (Node × Node)
  | [], _, acc => acc
  | n :: rest, none, acc =>
    match n with
    | .badValue => pairUp rest none acc
    | _ => pairUp rest (some n) acc
  | n :: rest, some k, acc => pairUp rest none ((acc.filter fun (k', _) => !k'.sameKey k) ++ [(k, n)])

def remember (anchorNumber : Nat) (n : Node) : ParseM Unit :=
  if anchorNumber > 0 then modify fun p => { p with named := (anchorNumber, n) :: p.named }
  else pure ()

mutual

/-- Loads the node an event starts. -/
def loadNode : Nat → Event → ParseM Node
  | 0, _ => pure .badValue
  | fuel + 1, ev =>
    match ev with
    | .alias id => return ((← get).named.lookup id).getD .badValue
    | .scalar v style anchorNumber tag => do
      let n := resolveScalar v style tag
      remember anchorNumber n
      return n
    | .sequenceStart anchorNumber => do
      let items ← loadChildren fuel (← Parse.fuel) []
      let n := Node.array items
      remember anchorNumber n
      return n
    | .mappingStart anchorNumber => do
      let children ← loadChildren fuel (← Parse.fuel) []
      let n := Node.hash (pairUp children none [])
      remember anchorNumber n
      return n
    | _ => pure .badValue
termination_by fuel _ => (fuel, 0)

/-- Loads the nodes of a collection up to its end. -/
def loadChildren : Nat → Nat → List Node → ParseM (List Node)
  | 0, _, acc => pure acc.reverse
  | _, 0, acc => pure acc.reverse
  | fuel + 1, count + 1, acc => do
    let (ev, _) ← Parse.next
    match ev with
    | .sequenceEnd | .mappingEnd => pure acc.reverse
    | _ =>
      let n ← loadNode fuel ev
      loadChildren (fuel + 1) count (n :: acc)
termination_by fuel count _ => (fuel, count)

end

/-- Loads the documents of a stream. -/
def loadDocuments : Nat → List Node → ParseM (List Node)
  | 0, acc => pure acc.reverse
  | n + 1, acc => do
    let (ev, _) ← Parse.next
    match ev with
    | .streamEnd => pure acc.reverse
    | _ =>
      modify fun p => { p with anchors := [] }
      let (first, _) ← Parse.next
      let root ← loadNode (← Parse.fuel) first
      let _ ← Parse.next
      loadDocuments n (root :: acc)

/-- Reads every document of a YAML text. -/
def loadAll (text : String) : Except Error (List Node) :=
  let p : Parser := { scanner := { rest := text.toList }, budget := 4 * text.length + 16 }
  match (do
    let _ ← Parse.next
    loadDocuments (text.length + 2) []).run p with
  | .ok (docs, _) => .ok docs
  | .error e => .error e

end VoiceSession.Yaml
