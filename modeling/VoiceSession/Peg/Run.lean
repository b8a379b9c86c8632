import VoiceSession.Peg.Expr
/-!
# Running a grammar

`Grammar.parse g top input` matches the rule `top` against the whole of `input` and gives the
parse tree, or a `Failure` that says where parsing got furthest and which rules were expected
there.
-/

namespace VoiceSession.Peg

inductive Atomicity where
  | atomic
  | compound
  | none
  deriving DecidableEq, Repr

inductive Lookahead where
  | none
  | positive
  | negative
  deriving DecidableEq, Repr

/-- The state of a match. -/
structure State (ρ : Type) where
  pos : Nat := 0
  nodes : List (Pair ρ) := []
  atomicity : Atomicity := .none
  lookahead : Lookahead := .none
  attemptPos : Nat := 0
  expected : Array ρ := #[]
  unexpected : Array ρ := #[]

abbrev Outcome (ρ : Type) := Bool × State ρ

abbrev Step (ρ : Type) := State ρ → Outcome ρ

namespace State

variable {ρ : Type}

def attemptsAt (st : State ρ) (pos : Nat) : Nat :=
  if st.attemptPos == pos then st.expected.size + st.unexpected.size else 0

/-- Records that rule `r`, tried at `pos`, failed (or matched inside a negative lookahead).
`expectedMark` and `unexpectedMark` are the numbers of records at `pos` when the rule was tried,
and `before` the number of all records there then. -/
def track (st : State ρ) (r : ρ) (pos expectedMark unexpectedMark before : Nat) : State ρ :=
  if st.atomicity == .atomic then st
  else
    let now := st.attemptsAt pos
    if now > before && now - before == 1 then st
    else
      let st := if pos == st.attemptPos then
          { st with expected := st.expected.extract 0 expectedMark,
                    unexpected := st.unexpected.extract 0 unexpectedMark }
        else st
      let st := if pos > st.attemptPos then
          { st with expected := #[], unexpected := #[], attemptPos := pos }
        else st
      if pos == st.attemptPos then
        if st.lookahead != .negative then { st with expected := st.expected.push r }
        else { st with unexpected := st.unexpected.push r }
      else st

end State

section Combinators

variable {ρ : Type}

def andThen (f g : Step ρ) : Step ρ := fun st =>
  let (ok, st') := f st
  if ok then g st' else (false, st')

def orElse (f g : Step ρ) : Step ρ := fun st =>
  let (ok, st') := f st
  if ok then (true, st') else g st'

def sequence (f : Step ρ) : Step ρ := fun st =>
  let (ok, st') := f st
  if ok then (true, st') else (false, { st' with pos := st.pos, nodes := st.nodes })

def optional (f : Step ρ) : Step ρ := fun st => (true, (f st).2)

def repeatUpTo : Nat → Step ρ → Step ρ
  | 0, _ => fun st => (true, st)
  | n + 1, f => fun st =>
    let (ok, st') := f st
    if ok then repeatUpTo n f st' else (true, st')

/-- Runs `f` as a lookahead of the given sense: the position does not move, and for a negative
lookahead success and failure trade places. -/
def lookahead (positive : Bool) (f : Step ρ) : Step ρ := fun st =>
  let sense : Lookahead :=
    if positive then (if st.lookahead == .negative then .negative else .positive)
    else (if st.lookahead == .negative then .positive else .negative)
  let (ok, st') := f { st with lookahead := sense }
  let st' := { st' with pos := st.pos, lookahead := st.lookahead }
  (if positive then ok else !ok, st')

def withAtomicity (a : Atomicity) (f : Step ρ) : Step ρ := fun st =>
  let (ok, st') := f { st with atomicity := a }
  (ok, { st' with atomicity := st.atomicity })

/-- Runs `f` as the body of rule `r`: a match makes a node of the nodes made inside it, unless
inside a lookahead or an atomic rule; the rule is recorded as described above. -/
def rule (r : ρ) (f : Step ρ) : Step ρ := fun st =>
  let at₀ := st.pos
  let (expectedMark, unexpectedMark) :=
    if at₀ == st.attemptPos then (st.expected.size, st.unexpected.size) else (0, 0)
  let making := st.lookahead == .none && st.atomicity != .atomic
  let before := st.attemptsAt at₀
  let (ok, st') := f (if making then { st with nodes := [] } else st)
  if ok then
    let st' := if st'.lookahead == .negative then st'.track r at₀ expectedMark unexpectedMark before
      else st'
    if making then
      (true, { st' with nodes := ⟨r, at₀, st'.pos, st'.nodes.reverse⟩ :: st.nodes })
    else (true, st')
  else
    let st' := if st'.lookahead != .negative then st'.track r at₀ expectedMark unexpectedMark before
      else st'
    (false, if making then { st' with nodes := st.nodes } else st')

def charWhen (input : Array Char) (p : Char → Bool) : Step ρ := fun st =>
  match input[st.pos]? with
  | some c => if p c then (true, { st with pos := st.pos + 1 }) else (false, st)
  | none => (false, st)

def textAt (input : Array Char) (same : Char → Char → Bool) : List Char → Nat → Bool
  | [], _ => true
  | c :: rest, pos =>
    match input[pos]? with
    | some d => same c d && textAt input same rest (pos + 1)
    | none => false

def literal (input : Array Char) (same : Char → Char → Bool) (s : List Char) : Step ρ := fun st =>
  if textAt input same s st.pos then (true, { st with pos := st.pos + s.length }) else (false, st)

def sameCaseless (a b : Char) : Bool := a.toLower == b.toLower

end Combinators

namespace Grammar

variable {ρ : Type}

mutual

/-- Matches an expression; `fuel` bounds how deeply expressions and rules nest. -/
def run (g : Grammar ρ) (input : Array Char) : Nat → Expr ρ → Step ρ
  | 0, _ => fun st => (false, st)
  | fuel + 1, e =>
    match e with
    | .lit s => literal input (· == ·) s
    | .litCaseless s => literal input sameCaseless s
    | .range lo hi => charWhen input fun c => lo ≤ c && c ≤ hi
    | .charIn p => charWhen input p
    | .any => charWhen input fun _ => true
    | .start => fun st => (st.pos == 0, st)
    | .finish => fun st => (st.pos == input.size, st)
    | .call r =>
      match g.kind r with
      | .normal => rule r (g.run input fuel (g.body r))
      | .silent => g.run input fuel (g.body r)
      | .atomic => rule r (withAtomicity .atomic (g.run input fuel (g.body r)))
      | .compound => rule r (withAtomicity .compound (g.run input fuel (g.body r)))
      | .silentAtomic => withAtomicity .atomic (g.run input fuel (g.body r))
    | .seq a b => sequence (andThen (g.run input fuel a) (andThen (g.blanks input fuel) (g.run input fuel b)))
    | .alt a b => orElse (g.run input fuel a) (g.run input fuel b)
    | .opt a => optional (g.run input fuel a)
    | .many a =>
      sequence (optional (andThen (g.run input fuel a)
        (repeatUpTo (input.size + 1) (sequence (andThen (g.blanks input fuel) (g.run input fuel a))))))
    | .many1 a =>
      sequence (andThen (g.run input fuel a)
        (repeatUpTo (input.size + 1) (sequence (andThen (g.blanks input fuel) (g.run input fuel a)))))
    | .ahead a => lookahead true (g.run input fuel a)
    | .notAhead a => lookahead false (g.run input fuel a)

/-- Skips blanks when the atomicity is none: whitespace, then rounds of a comment and
whitespace. -/
def blanks (g : Grammar ρ) (input : Array Char) : Nat → Step ρ
  | 0 => fun st => (true, st)
  | fuel + 1 => fun st =>
    if st.atomicity != .none then (true, st)
    else
      let white := repeatUpTo (input.size + 1) (g.run input fuel (.call g.whitespace))
      sequence (andThen white (repeatUpTo (input.size + 1)
        (sequence (andThen (g.run input fuel (.call g.comment)) white)))) st

end

end Grammar

/-- Why an input does not match: the furthest position at which a rule was tried, with the
rules expected and not expected there. -/
structure Failure (ρ : Type) where
  pos : Nat
  expected : List ρ
  unexpected : List ρ

namespace Grammar

variable {ρ : Type}

def sortRules (g : Grammar ρ) (rs : List ρ) : List ρ :=
  let sorted := rs.mergeSort fun a b => g.order a ≤ g.order b
  sorted.foldr (fun r acc =>
    match acc with
    | r' :: _ => if g.order r == g.order r' then acc else r :: acc
    | [] => [r]) []

def parse (g : Grammar ρ) (top : ρ) (input : Array Char) : Except (Failure ρ) (List (Pair ρ)) :=
  let (ok, st) := g.run input (64 * input.size + 256) (.call top) {}
  if ok then .ok st.nodes.reverse
  else .error { pos := st.attemptPos, expected := g.sortRules st.expected.toList,
                unexpected := g.sortRules st.unexpected.toList }

end Grammar

end VoiceSession.Peg
