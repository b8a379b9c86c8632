import VoiceSession.Yaml.Token
/-!
# Scanning YAML

The scanner turns a character stream into tokens. Block structure is read off the
indentation: a column greater than the current indentation opens a block sequence or mapping,
a smaller one closes blocks (`blockEnd`). Inside `[ ]` and `{ }` indentation does not count.
-/

namespace VoiceSession.Yaml

structure SimpleKey where
  possible : Bool := false
  required : Bool := false
  tokenNumber : Nat := 0
  mark : Mark := { index := 0, line := 0, col := 0 }
  deriving Repr

/-- The scanner: the unread characters and what has been worked out about the structure. -/
structure Scanner where
  rest : List Char
  mark : Mark := {}
  tokens : List (Mark × Token) := []
  streamStartProduced : Bool := false
  streamEndProduced : Bool := false
  adjacentValueAllowedAt : Nat := 0
  simpleKeyAllowed : Bool := true
  simpleKeys : List SimpleKey := []
  indent : Int := -1
  indents : List Int := []
  flowLevel : Nat := 0
  tokensParsed : Nat := 0
  tokenAvailable : Bool := false

abbrev ScanM := StateT Scanner (Except Error)

namespace Scanner

def peekAt (s : Scanner) (i : Nat) : Char := s.rest.getD i endChar

def advance (m : Mark) (c : Char) : Mark :=
  if c == '\n' then { index := m.index + 1, line := m.line + 1, col := 0 }
  else { m with index := m.index + 1, col := m.col + 1 }

def skipOne (s : Scanner) : Scanner :=
  match s.rest with
  | c :: r => { s with rest := r, mark := advance s.mark c }
  | [] => { s with mark := advance s.mark endChar }

def fuel (s : Scanner) : Nat := s.rest.length + 2

end Scanner

namespace Scan

def fail {α : Type} (mark : Mark) (info : String) : ScanM α := throw { mark := mark, info := info }

def peek (i : Nat) : ScanM Char := return (← get).peekAt i

def ch : ScanM Char := peek 0

def mark : ScanM Mark := return (← get).mark

def skip : ScanM Unit := modify Scanner.skipOne

def fuel : ScanM Nat := return (← get).fuel

def skipLine : ScanM Unit := do
  if (← peek 0) == '\r' && (← peek 1) == '\n' then
    skip
    skip
  else if isBreak (← ch) then skip

/-- Reads a line break and gives it as `\n`. -/
def readBreak : ScanM String := do
  if (← peek 0) == '\r' && (← peek 1) == '\n' then
    skip
    skip
    return "\n"
  else if isBreak (← ch) then
    skip
    return "\n"
  else return ""

/-- Reads characters while `p` holds, giving them. -/
def takeWhile (p : Char → Bool) : Nat → ScanM String
  | 0 => return ""
  | n + 1 => do
    let c ← ch
    if p c then
      skip
      return String.singleton c ++ (← takeWhile p n)
    else return ""

def skipWhile (p : Char → Bool) (n : Nat) : ScanM Unit := do
  let _ ← takeWhile p n

def pushToken (m : Mark) (t : Token) : ScanM Unit :=
  modify fun s => { s with tokens := s.tokens ++ [(m, t)] }

def insertToken (pos : Nat) (m : Mark) (t : Token) : ScanM Unit :=
  modify fun s => { s with tokens := s.tokens.take pos ++ [(m, t)] ++ s.tokens.drop pos }

def setKeyAllowed (b : Bool) : ScanM Unit := modify fun s => { s with simpleKeyAllowed := b }

def topKey : ScanM SimpleKey := return (← get).simpleKeys.headD {}

def setTopKey (k : SimpleKey) : ScanM Unit :=
  modify fun s => { s with simpleKeys := k :: s.simpleKeys.tail }

def removeSimpleKey : ScanM Unit := do
  let k ← topKey
  if k.possible && k.required then fail (← mark) "simple key expected"
  setTopKey { k with possible := false }

/-- Remembers the current position as a possible simple key. -/
def saveSimpleKey : ScanM Unit := do
  let s ← get
  let required := s.flowLevel > 0 && s.indent == (s.mark.col : Int)
  if s.simpleKeyAllowed then
    let k : SimpleKey :=
      { possible := true, required := required, tokenNumber := s.tokensParsed + s.tokens.length,
        mark := s.mark }
    removeSimpleKey
    setTopKey k

/-- Forgets places left on an earlier line or more than 1024 characters back. -/
def staleSimpleKeys : ScanM Unit := do
  let s ← get
  let mut kept : List SimpleKey := []
  for k in s.simpleKeys.reverse do
    if k.possible && (k.mark.line < s.mark.line || k.mark.index + 1024 < s.mark.index) then
      if k.required then fail s.mark "simple key expect ':'"
      kept := { k with possible := false } :: kept
    else kept := k :: kept
  set { s with simpleKeys := kept }

/-- Opens a block at column `col` if it is deeper than the current one. -/
def rollIndent (col : Nat) (number : Option Nat) (t : Token) (m : Mark) : ScanM Unit := do
  let s ← get
  if s.flowLevel == 0 && s.indent < (col : Int) then
    set { s with indents := s.indent :: s.indents, indent := col }
    match number with
    | some n => insertToken (n - s.tokensParsed) m t
    | none => pushToken m t

/-- Closes the blocks deeper than column `col`. -/
def unrollIndent (col : Int) : Nat → ScanM Unit
  | 0 => pure ()
  | n + 1 => do
    let s ← get
    if s.flowLevel == 0 && s.indent > col then
      pushToken s.mark .blockEnd
      modify fun s => { s with indent := s.indents.headD (-1), indents := s.indents.tail }
      unrollIndent col n

/-- Skips blanks, line breaks and comments before the next token. -/
def skipToNextToken : Nat → ScanM Unit
  | 0 => pure ()
  | n + 1 => do
    let s ← get
    let c := s.peekAt 0
    if c == ' ' || (c == '\t' && (s.flowLevel > 0 || !s.simpleKeyAllowed)) then
      skip
      skipToNextToken n
    else if isBreak c then
      skipLine
      if (← get).flowLevel == 0 then setKeyAllowed true
      skipToNextToken n
    else if c == '#' then
      skipWhile (fun c => !isBreakOrEnd c) (← fuel)
      skipToNextToken n

/-! ## Stream, directives and documents -/

/-- Starts the stream. -/
def fetchStreamStart : ScanM Unit := do
  let m ← mark
  modify fun s =>
    { s with
      indent := -1
      streamStartProduced := true
      simpleKeyAllowed := true
      simpleKeys := s.simpleKeys ++ [{}] }
  pushToken m .streamStart

/-- Ends the stream, closing every block. -/
def fetchStreamEnd : ScanM Unit := do
  let s ← get
  if s.mark.col != 0 then set { s with mark := { s.mark with col := 0, line := s.mark.line + 1 } }
  unrollIndent (-1) ((← get).indents.length + 1)
  removeSimpleKey
  setKeyAllowed false
  pushToken (← mark) .streamEnd

/-- Reads the digits of a version number. -/
def versionNumber (m : Mark) : Nat → Nat → Nat → ScanM Nat
  | 0, v, _ => pure v
  | n + 1, v, length => do
    let c ← ch
    if isDigit c then
      if length + 1 > 9 then
        fail m "while scanning a YAML directive, found extremely long version number"
      skip
      versionNumber m n (v * 10 + (c.toNat - 48)) (length + 1)
    else if length == 0 then
      fail m "while scanning a YAML directive, did not find expected version number"
    else pure v

/-- Reads the escaped octets of a tag character. -/
def uriEscapes (m : Mark) : Nat → Nat → Nat → ScanM Char
  | 0, _, code => pure (Char.ofNat code)
  | n + 1, width, code => do
    let c0 ← peek 0
    let c1 ← peek 1
    let c2 ← peek 2
    if !(c0 == '%' && isHex c1 && isHex c2) then
      fail m "while parsing a tag, did not find URI escaped octet"
    let octet := hexValue c1 * 16 + hexValue c2
    let (width, code) ← if width == 0 then
        if octet &&& 0x80 == 0 then pure (1, octet)
        else if octet &&& 0xE0 == 0xC0 then pure (2, octet)
        else if octet &&& 0xF0 == 0xE0 then pure (3, octet)
        else if octet &&& 0xF8 == 0xF0 then pure (4, octet)
        else fail m "while parsing a tag, found an incorrect leading UTF-8 octet"
      else if octet &&& 0xC0 != 0x80 then
        fail m "while parsing a tag, found an incorrect trailing UTF-8 octet"
      else pure (width, code * 256 + octet)
    skip
    skip
    skip
    if width - 1 == 0 then
      if code < 0xD800 || (0xDFFF < code && code ≤ 0x10FFFF) then pure (Char.ofNat code)
      else fail m "while parsing a tag, found an invalid UTF-8 codepoint"
    else uriEscapes m n (width - 1) code

def isUriChar (c : Char) : Bool :=
  isWordChar c || ";/?:@&=+$,.!~*()[]%".contains c || c.toNat == 0x27

/-- Reads the characters of a tag after `head` (whose leading `!` is dropped). -/
def tagUri (m : Mark) (head : String) : ScanM String := do
  let rec go : Nat → String → Nat → ScanM (String × Nat)
    | 0, acc, length => pure (acc, length)
    | n + 1, acc, length => do
      let c ← ch
      if isUriChar c then
        if c == '%' then
          let e ← uriEscapes m 4 0 0
          go n (acc.push e) (length + 1)
        else
          skip
          go n (acc.push c) (length + 1)
      else pure (acc, length)
  let start := if head.length > 1 then (head.drop 1).toString else ""
  let (s, length) ← go (← fuel) start head.length
  if length == 0 then fail m "while parsing a tag, did not find expected tag URI"
  return s

/-- Reads a tag handle: `!`, a word, and an optional closing `!`. -/
def tagHandle (directive : Bool) (m : Mark) : ScanM String := do
  if (← ch) != '!' then fail m "while scanning a tag, did not find expected '!'"
  skip
  let word ← takeWhile isWordChar (← fuel)
  let s := "!" ++ word
  if (← ch) == '!' then
    skip
    return s ++ "!"
  else if directive && s != "!" then
    fail m "while parsing a tag directive, did not find expected '!'"
  else return s

/-- Reads a directive line: `%YAML major.minor`, `%TAG handle expansion`, or another name
whose line is skipped. -/
def scanDirective : ScanM (Mark × Token) := do
  let start ← mark
  skip
  let nameMark ← mark
  let name ← takeWhile isWordChar (← fuel)
  if name.isEmpty then
    fail nameMark "while scanning a directive, could not find expected directive name"
  if !isSpaceOrEnd (← ch) then
    fail nameMark "while scanning a directive, found unexpected non-alphabetical character"
  let t ← if name == "YAML" then do
      skipWhile isSpace (← fuel)
      let major ← versionNumber start (← fuel) 0 0
      if (← ch) != '.' then
        fail start "while scanning a YAML directive, did not find expected digit or '.' character"
      skip
      let minor ← versionNumber start (← fuel) 0 0
      pure (Token.versionDirective major minor)
    else if name == "TAG" then do
      skipWhile isSpace (← fuel)
      let handle ← tagHandle true start
      skipWhile isSpace (← fuel)
      let expansion ← tagUri start ""
      if !isSpaceOrEnd (← ch) then
        fail start "while scanning TAG, did not find expected whitespace or line break"
      pure (Token.tagDirective handle expansion)
    else do
      skipWhile (fun c => !isBreakOrEnd c) (← fuel)
      pure (Token.tagDirective "" "")
  skipWhile isSpace (← fuel)
  if (← ch) == '#' then skipWhile (fun c => !isBreakOrEnd c) (← fuel)
  if !isBreakOrEnd (← ch) then
    fail start "while scanning a directive, did not find expected comment or line break"
  if isBreak (← ch) then skipLine
  return (start, t)

def fetchDirective : ScanM Unit := do
  unrollIndent (-1) ((← get).indents.length + 1)
  removeSimpleKey
  setKeyAllowed false
  let (m, t) ← scanDirective
  pushToken m t

/-- Reads `---` or `...`. -/
def fetchDocumentIndicator (t : Token) : ScanM Unit := do
  unrollIndent (-1) ((← get).indents.length + 1)
  removeSimpleKey
  setKeyAllowed false
  let m ← mark
  skip
  skip
  skip
  pushToken m t

/-! ## Indicators -/

/-- Reads `[` or `{`. -/
def fetchFlowCollectionStart (t : Token) : ScanM Unit := do
  saveSimpleKey
  let s ← get
  if s.flowLevel + 1 > 255 then fail s.mark "recursion limit exceeded"
  set { s with simpleKeys := {} :: s.simpleKeys, flowLevel := s.flowLevel + 1 }
  setKeyAllowed true
  let m ← mark
  skip
  pushToken m t

/-- Reads `]` or `}`. -/
def fetchFlowCollectionEnd (t : Token) : ScanM Unit := do
  removeSimpleKey
  modify fun s => if s.flowLevel > 0 then
    { s with flowLevel := s.flowLevel - 1, simpleKeys := s.simpleKeys.tail } else s
  setKeyAllowed false
  let m ← mark
  skip
  pushToken m t

def fetchFlowEntry : ScanM Unit := do
  removeSimpleKey
  setKeyAllowed true
  let m ← mark
  skip
  pushToken m .flowEntry

/-- Reads `-` before a block sequence entry. -/
def fetchBlockEntry : ScanM Unit := do
  let s ← get
  if s.flowLevel == 0 then
    if !s.simpleKeyAllowed then
      fail s.mark "block sequence entries are not allowed in this context"
    rollIndent s.mark.col none .blockSequenceStart s.mark
  else fail s.mark "\"-\" is only valid inside a block"
  removeSimpleKey
  setKeyAllowed true
  let m ← mark
  skip
  pushToken m .blockEntry

/-- Reads `?` before a complex key. -/
def fetchKey : ScanM Unit := do
  let s ← get
  let start := s.mark
  if s.flowLevel == 0 then
    if !s.simpleKeyAllowed then fail start "mapping keys are not allowed in this context"
    rollIndent start.col none .blockMappingStart start
  removeSimpleKey
  setKeyAllowed ((← get).flowLevel == 0)
  skip
  pushToken start .key

/-- Reads `:`; a remembered simple key becomes a key. -/
def fetchValue : ScanM Unit := do
  let sk ← topKey
  let s ← get
  let start := s.mark
  if sk.possible then
    insertToken (sk.tokenNumber - s.tokensParsed) sk.mark .key
    rollIndent sk.mark.col (some sk.tokenNumber) .blockMappingStart start
    setTopKey { sk with possible := false }
    setKeyAllowed false
  else
    if s.flowLevel == 0 then
      if !s.simpleKeyAllowed then fail start "mapping values are not allowed in this context"
      rollIndent start.col none .blockMappingStart start
    setKeyAllowed ((← get).flowLevel == 0)
  skip
  pushToken start .value

/-- Reads `&name` or `*name`. -/
def fetchAnchor (isAlias : Bool) : ScanM Unit := do
  saveSimpleKey
  setKeyAllowed false
  let start ← mark
  skip
  let name ← takeWhile isWordChar (← fuel)
  let c ← ch
  let ends := isSpaceOrEnd c || "?:,]%@`".contains c || c == Char.ofNat 0x7D
  if name.isEmpty || !ends then
    fail start "while scanning an anchor or alias, did not find expected alphabetic or numeric character"
  pushToken start (if isAlias then .alias name else .anchor name)

/-- Reads a tag: `!<uri>`, `!handle!suffix`, `!suffix` or `!`. -/
def fetchTag : ScanM Unit := do
  saveSimpleKey
  setKeyAllowed false
  let start ← mark
  let (handle, suffix) ← if (← peek 1) == '<' then do
      skip
      skip
      let suffix ← tagUri start ""
      if (← ch) != '>' then fail start "while scanning a tag, did not find the expected '>'"
      skip
      pure ("", suffix)
    else do
      let handle ← tagHandle false start
      if handle.length ≥ 2 && handle.startsWith "!" && handle.endsWith "!" then
        pure (handle, ← tagUri start "")
      else
        let suffix ← tagUri start handle
        if suffix.isEmpty then pure ("", "!") else pure ("!", suffix)
  if isSpaceOrEnd (← ch) then pushToken start (.tag handle suffix)
  else fail start "while scanning a tag, did not find expected whitespace or line break"

/-! ## Block scalars -/

/-- Skips the spaces of a block scalar line's indentation: all of them while the indentation
is unknown (`indent = 0`), else up to it. -/
def indentSpaces (indent : Nat) : Nat → ScanM Unit
  | 0 => pure ()
  | k + 1 => do
    let s ← get
    if (indent == 0 || s.mark.col < indent) && s.peekAt 0 == ' ' then
      skip
      indentSpaces indent k

/-- Reads the indentation and line breaks before a line of a block scalar; settles the
indentation if it was not given. -/
def blockScalarBreaks (indent : Nat) (breaks : String) : ScanM (Nat × String) := do
  let rec go : Nat → Nat → String → ScanM (Nat × String)
    | 0, maxIndent, breaks => pure (maxIndent, breaks)
    | n + 1, maxIndent, breaks => do
      indentSpaces indent (← fuel)
      let s ← get
      let maxIndent := max maxIndent s.mark.col
      if (indent == 0 || s.mark.col < indent) && s.peekAt 0 == '\t' then
        fail s.mark "while scanning a block scalar, found a tab character where an indentation space is expected"
      if !isBreak (s.peekAt 0) then pure (maxIndent, breaks)
      else
        let b ← readBreak
        go n maxIndent (breaks ++ b)
  let (maxIndent, breaks) ← go (← fuel) 0 breaks
  if indent == 0 then
    let s ← get
    let floor := (s.indent + 1).toNat
    return (max 1 (max maxIndent floor), breaks)
  else return (indent, breaks)

structure BlockLines where
  text : String := ""
  leadingBreak : String := ""
  trailingBreaks : String := ""
  leadingBlank : Bool := false

/-- Reads the lines of a block scalar at its indentation. -/
def blockLines (literal : Bool) (indent : Nat) : Nat → BlockLines → ScanM BlockLines
  | 0, b => pure b
  | n + 1, b => do
    let s ← get
    let c := s.peekAt 0
    if s.mark.col != indent || isEnd c then pure b
    else
      let trailingBlank := isSpace c
      let b := if !literal && !b.leadingBreak.isEmpty && !b.leadingBlank && !trailingBlank then
          { b with
            text := (if b.trailingBreaks.isEmpty then b.text.push ' ' else b.text)
            leadingBreak := "" }
        else { b with text := b.text ++ b.leadingBreak, leadingBreak := "" }
      let b := { b with text := b.text ++ b.trailingBreaks, trailingBreaks := "", leadingBlank := isSpace c }
      let line ← takeWhile (fun c => !isBreakOrEnd c) (← fuel)
      let b := { b with text := b.text ++ line }
      if isEnd (← ch) then pure b
      else
        let lb ← readBreak
        let (_, tb) ← blockScalarBreaks indent ""
        blockLines literal indent n { b with leadingBreak := lb, trailingBreaks := tb }

/-- Reads a literal (`|`) or folded (`>`) block scalar. -/
def fetchBlockScalar (literal : Bool) : ScanM Unit := do
  saveSimpleKey
  setKeyAllowed true
  let start ← mark
  skip
  let indicatorError := "while scanning a block scalar, found an indentation indicator equal to 0"
  let c ← ch
  let (chomping, increment) ← if c == '+' || c == '-' then do
      skip
      let d ← ch
      if isDigit d then
        if d == '0' then fail start indicatorError
        skip
        pure ((if c == '+' then 1 else -1 : Int), d.toNat - 48)
      else pure ((if c == '+' then 1 else -1 : Int), 0)
    else if isDigit c then do
      if c == '0' then fail start indicatorError
      skip
      let d ← ch
      if d == '+' || d == '-' then
        skip
        pure ((if d == '+' then 1 else -1 : Int), c.toNat - 48)
      else pure (0, c.toNat - 48)
    else pure (0, 0)
  skipWhile isSpace (← fuel)
  if (← ch) == '#' then skipWhile (fun c => !isBreakOrEnd c) (← fuel)
  if !isBreakOrEnd (← ch) then
    fail start "while scanning a block scalar, did not find expected comment or line break"
  if isBreak (← ch) then skipLine
  let s ← get
  let indent := if increment > 0 then
      (if s.indent ≥ 0 then (s.indent + increment).toNat else increment) else 0
  let (indent, trailing) ← blockScalarBreaks indent ""
  let contentMark ← mark
  let b ← blockLines literal indent (← fuel) { trailingBreaks := trailing }
  let text := if chomping != -1 then b.text ++ b.leadingBreak else b.text
  let text := if chomping == 1 then text ++ b.trailingBreaks else text
  pushToken contentMark (.scalar (if literal then .literal else .folded) text)

/-! ## Flow scalars -/

def atDocumentIndicator : ScanM Bool := do
  let s ← get
  let c0 := s.peekAt 0
  return s.mark.col == 0 && ((c0 == '-' && s.peekAt 1 == '-' && s.peekAt 2 == '-') ||
    (c0 == '.' && s.peekAt 1 == '.' && s.peekAt 2 == '.')) && isSpaceOrEnd (s.peekAt 3)

/-- What a flow or plain scalar has gathered: its text, the line break and blank lines that
follow it so far, the blanks after it, and whether a line was broken. -/
structure Fold where
  text : String := ""
  leadingBreak : String := ""
  trailingBreaks : String := ""
  spaces : String := ""
  leadingBlanks : Bool := false

/-- Joins the gathered blanks or line breaks into the text. -/
def Fold.join (f : Fold) : Fold :=
  if f.leadingBlanks then
    if f.leadingBreak.isEmpty then
      { f with text := f.text ++ f.leadingBreak ++ f.trailingBreaks, trailingBreaks := "", leadingBreak := "" }
    else if f.trailingBreaks.isEmpty then
      { f with text := f.text.push ' ', leadingBreak := "" }
    else { f with text := f.text ++ f.trailingBreaks, trailingBreaks := "", leadingBreak := "" }
  else { f with text := f.text ++ f.spaces, spaces := "" }

/-- Reads blanks and line breaks inside a scalar. `tabCheck` refuses a tab in the indentation
of a continued plain scalar. -/
def foldBlanks (tabCheck : Option (Int × Mark)) : Nat → Fold → ScanM Fold
  | 0, f => pure f
  | n + 1, f => do
    let s ← get
    let c := s.peekAt 0
    if isSpace c then
      match tabCheck with
      | some (indent, start) =>
        if f.leadingBlanks && (s.mark.col : Int) < indent && c == '\t' then
          fail start "while scanning a plain scalar, found a tab"
      | none => pure ()
      skip
      foldBlanks tabCheck n (if f.leadingBlanks then f else { f with spaces := f.spaces.push c })
    else if isBreak c then
      let b ← readBreak
      if f.leadingBlanks then foldBlanks tabCheck n { f with trailingBreaks := f.trailingBreaks ++ b }
      else foldBlanks tabCheck n { f with spaces := "", leadingBreak := f.leadingBreak ++ b, leadingBlanks := true }
    else pure f

/-- The character an escape letter stands for, if it is a simple escape. -/
def simpleEscape (c : Char) : Option Char :=
  match c with
  | '0' => some (Char.ofNat 0)
  | 'a' => some (Char.ofNat 7)
  | 'b' => some (Char.ofNat 8)
  | 't' | '\t' => some '\t'
  | 'n' => some '\n'
  | 'v' => some (Char.ofNat 11)
  | 'f' => some (Char.ofNat 12)
  | 'r' => some '\r'
  | 'e' => some (Char.ofNat 27)
  | ' ' => some ' '
  | '"' => some '"'
  | '\\' => some '\\'
  | 'N' => some (Char.ofNat 0x85)
  | '_' => some (Char.ofNat 0xA0)
  | 'L' => some (Char.ofNat 0x2028)
  | 'P' => some (Char.ofNat 0x2029)
  | c => if c.toNat == 0x27 then some c else none

/-- Reads the characters of a quoted scalar up to a blank, a break or its closing quote.
Gives whether an escaped line break was read. -/
def quotedRun (single : Bool) (start : Mark) : Nat → String → ScanM (String × Bool)
  | 0, acc => pure (acc, false)
  | n + 1, acc => do
    let c ← peek 0
    let c1 ← peek 1
    let quote := Char.ofNat 0x27
    if isSpaceOrEnd c then pure (acc, false)
    else if single && c == quote && c1 == quote then
      skip
      skip
      quotedRun single start n (acc.push quote)
    else if (single && c == quote) || (!single && c == '"') then pure (acc, false)
    else if !single && c == '\\' && isBreak c1 then
      skip
      skipLine
      pure (acc, true)
    else if !single && c == '\\' then
      let codeLength := if c1 == 'x' then 2 else if c1 == 'u' then 4 else if c1 == 'U' then 8 else 0
      let acc ← if codeLength == 0 then
          match simpleEscape c1 with
          | some e => pure (acc.push e)
          | none => fail start "while parsing a quoted scalar, found unknown escape character"
        else pure acc
      skip
      skip
      if codeLength > 0 then
        let s ← get
        let digits := (List.range codeLength).map s.peekAt
        if !digits.all isHex then
          fail start "while parsing a quoted scalar, did not find expected hexadecimal number"
        let v := digits.foldl (fun v d => v * 16 + hexValue d) 0
        if !(v < 0xD800 || (0xDFFF < v && v ≤ 0x10FFFF)) then
          fail start "while parsing a quoted scalar, found invalid Unicode character escape code"
        for _ in List.range codeLength do skip
        quotedRun single start n (acc.push (Char.ofNat v))
      else quotedRun single start n acc
    else
      skip
      quotedRun single start n (acc.push c)

/-- Reads the lines of a quoted scalar up to its closing quote. -/
def quotedLines (single : Bool) (start : Mark) : Nat → Fold → ScanM Fold
  | 0, f => pure f
  | n + 1, f => do
    if ← atDocumentIndicator then
      fail start "while scanning a quoted scalar, found unexpected document indicator"
    if isEnd (← ch) then
      fail start "while scanning a quoted scalar, found unexpected end of stream"
    let (text, escapedBreak) ← quotedRun single start (← fuel) f.text
    let f := { f with text := text, leadingBlanks := escapedBreak }
    let c ← ch
    if (single && c.toNat == 0x27) || (!single && c == '"') then pure f
    else
      let f ← foldBlanks none (← fuel) f
      quotedLines single start n f.join

/-- Reads a single- or double-quoted scalar. -/
def fetchFlowScalar (single : Bool) : ScanM Unit := do
  saveSimpleKey
  setKeyAllowed false
  let start ← mark
  skip
  let f ← quotedLines single start (← fuel) {}
  skip
  modify fun s => { s with adjacentValueAllowedAt := s.mark.index }
  pushToken start (.scalar (if single then .singleQuoted else .doubleQuoted) f.text)

/-! ## Plain scalars -/

/-- Reads the characters of a plain scalar up to a blank or an indicator that ends it. -/
def plainRun (flow : Bool) : Nat → Fold → ScanM Fold
  | 0, f => pure f
  | n + 1, f => do
    let c ← peek 0
    let c1 ← peek 1
    if isSpaceOrEnd c then pure f
    else if c == ':' && (isSpaceOrEnd c1 || (flow && isFlow c1)) then pure f
    else if flow && isFlow c then pure f
    else
      let f := if f.leadingBlanks || !f.spaces.isEmpty then { f.join with leadingBlanks := false } else f
      skip
      plainRun flow n { f with text := f.text.push c }

/-- Reads the lines of a plain scalar while they are indented deeper than `indent`. -/
def plainLines (indent : Int) (start : Mark) : Nat → Fold → ScanM Fold
  | 0, f => pure f
  | n + 1, f => do
    if ← atDocumentIndicator then pure f
    else if (← ch) == '#' then pure f
    else
      let flow := (← get).flowLevel > 0
      let f ← plainRun flow (← fuel) f
      let c ← ch
      if !(isSpace c || isBreak c) then pure f
      else
        let f ← foldBlanks (some (indent, start)) (← fuel) f
        let s ← get
        if s.flowLevel == 0 && (s.mark.col : Int) < indent then pure f
        else plainLines indent start n f

/-- Reads a plain scalar. -/
def fetchPlainScalar : ScanM Unit := do
  saveSimpleKey
  setKeyAllowed false
  let s ← get
  let start := s.mark
  let f ← plainLines (s.indent + 1) start (← fuel) {}
  if f.leadingBlanks then setKeyAllowed true
  pushToken start (.scalar .plain f.text)

/-! ## Tokens -/

/-- Reads whatever comes next into the queue. -/
def fetchNextToken : ScanM Unit := do
  if !(← get).streamStartProduced then fetchStreamStart
  else
    skipToNextToken (← fuel)
    staleSimpleKeys
    unrollIndent (← mark).col ((← get).indents.length + 1)
    let s ← get
    let c := s.peekAt 0
    let nc := s.peekAt 1
    let atLineStart := s.mark.col == 0
    let triple (d : Char) := atLineStart && c == d && nc == d && s.peekAt 2 == d && isSpaceOrEnd (s.peekAt 3)
    let flow := s.flowLevel > 0
    if isEnd c then fetchStreamEnd
    else if atLineStart && c == '%' then fetchDirective
    else if triple '-' then fetchDocumentIndicator .documentStart
    else if triple '.' then fetchDocumentIndicator .documentEnd
    else if c == '[' then fetchFlowCollectionStart .flowSequenceStart
    else if c == Char.ofNat 0x7B then fetchFlowCollectionStart .flowMappingStart
    else if c == ']' then fetchFlowCollectionEnd .flowSequenceEnd
    else if c == Char.ofNat 0x7D then fetchFlowCollectionEnd .flowMappingEnd
    else if c == ',' then fetchFlowEntry
    else if c == '-' && isSpaceOrEnd nc then fetchBlockEntry
    else if c == '?' && isSpaceOrEnd nc then fetchKey
    else if c == ':' && (isSpaceOrEnd nc || (flow && (isFlow nc || s.mark.index == s.adjacentValueAllowedAt))) then
      fetchValue
    else if c == '*' then fetchAnchor true
    else if c == '&' then fetchAnchor false
    else if c == '!' then fetchTag
    else if c == '|' && !flow then fetchBlockScalar true
    else if c == '>' && !flow then fetchBlockScalar false
    else if c.toNat == 0x27 then fetchFlowScalar true
    else if c == '"' then fetchFlowScalar false
    else if c == '%' || c == '@' || c.toNat == 0x60 then
      fail s.mark ("unexpected character: " ++ String.singleton (Char.ofNat 0x60) ++ String.singleton c ++
        String.singleton (Char.ofNat 0x27))
    else fetchPlainScalar

/-- Reads until the first token can be handed out. -/
def fetchMoreTokens : Nat → ScanM Unit
  | 0 => modify fun s => { s with tokenAvailable := true }
  | n + 1 => do
    let needMore ← if (← get).tokens.isEmpty then pure true else do
      staleSimpleKeys
      let s ← get
      pure (s.simpleKeys.any fun k => k.possible && k.tokenNumber == s.tokensParsed)
    if needMore then
      fetchNextToken
      fetchMoreTokens n
    else modify fun s => { s with tokenAvailable := true }

/-- The next token, or nothing after the end of the stream. -/
def nextToken : ScanM (Option (Mark × Token)) := do
  if (← get).streamEndProduced then return none
  if !(← get).tokenAvailable then fetchMoreTokens (← fuel)
  match (← get).tokens with
  | t :: rest =>
    modify fun s =>
      { s with
        tokens := rest
        tokenAvailable := false
        tokensParsed := s.tokensParsed + 1
        streamEndProduced := s.streamEndProduced || t.2 == .streamEnd }
    return some t
  | [] => return none

end Scan

end VoiceSession.Yaml
