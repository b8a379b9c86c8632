/-!
# Layered settings

Settings are gathered from several sources into one tree before they are read. A node of the
tree (`Datum`) is a value together with the source it came from, if any: the source is named
in messages about a value of the wrong kind.
-/

namespace VoiceSession.Settings

/-- A node of the settings tree, with the source it came from. -/
inductive Datum where
  | nil (origin : Option String)
  | boolean (origin : Option String) (b : Bool)
  | integer (origin : Option String) (i : Int)
  | float (origin : Option String) (f : Float)
  | string (origin : Option String) (s : String)
  | array (origin : Option String) (items : List Datum)
  | table (origin : Option String) (members : List (String × Datum))
  deriving Inhabited

namespace Datum

def origin : Datum → Option String
  | .nil o | .boolean o _ | .integer o _ | .float o _ | .string o _ | .array o _ | .table o _ => o

def empty : Datum := .table none []

def members : Datum → List (String × Datum)
  | .table _ ms => ms
  | _ => []

def asTable : Datum → Datum
  | .table o ms => .table o ms
  | _ => empty

end Datum

def putMember (k : String) (v : Datum) : List (String × Datum) → List (String × Datum)
  | [] => [(k, v)]
  | (k', v') :: rest => if k' == k then (k, v) :: rest else (k', v') :: putMember k v rest

def alterMember (k : String) (f : Datum → Datum) : List (String × Datum) → List (String × Datum)
  | [] => [(k, f (.nil none))]
  | (k', v') :: rest => if k' == k then (k, f v') :: rest else (k', v') :: alterMember k f rest

def findMember (k : String) : List (String × Datum) → Option Datum
  | [] => none
  | (k', v) :: rest => if k' == k then some v else findMember k rest

@[simp] theorem findMember_putMember (k : String) (v : Datum) :
    ∀ ms : List (String × Datum), findMember k (putMember k v ms) = some v
  | [] => by simp [putMember, findMember]
  | (k', v') :: rest => by
    unfold putMember
    by_cases h : k' = k
    · subst h
      simp [findMember]
    · simp [h, findMember, findMember_putMember k v rest]

theorem findMember_putMember_of_ne {k j : String} (v : Datum) (hne : j ≠ k) :
    ∀ ms : List (String × Datum), findMember j (putMember k v ms) = findMember j ms
  | [] => by simp [putMember, findMember, Ne.symm hne]
  | (k', v') :: rest => by
    unfold putMember
    by_cases h : k' = k
    · subst h
      simp [findMember, Ne.symm hne]
    · by_cases hj : k' = j
      · subst hj
        simp [h, findMember]
      · simp [h, hj, findMember, findMember_putMember_of_ne v hne rest]

mutual

/-- Sets the member `k` of a node made a table: a table value is merged into the member (an
empty table from no source if it is missing), any other value replaces it. -/
def setMember (k : String) : Datum → Datum → Datum
  | .table _ incoming, root =>
    match root.asTable with
    | .table o ms =>
      let target := (findMember k ms).getD Datum.empty
      .table o (putMember k (mergeMembers incoming target) ms)
    | other => other
  | v, root =>
    match root.asTable with
    | .table o ms => .table o (putMember k v ms)
    | other => other

def mergeMembers : List (String × Datum) → Datum → Datum
  | [], target => target
  | (k, v) :: rest, target => mergeMembers rest (setMember k v target)

end

inductive Path where
  | name (n : String)
  | child (parent : Path) (n : String)
  | index (parent : Path) (i : Int)
  deriving DecidableEq, Repr

/-- The position of an item in an array of `len` items; a negative index counts from the end.
An index before the start names the first item. -/
def itemPosition (i : Int) (len : Nat) : Nat :=
  if 0 ≤ i then i.toNat else (len - i.natAbs)

def padTo (items : List Datum) (n : Nat) : List Datum :=
  items ++ List.replicate (n - items.length) (.nil none)

namespace Path

/-- Changes the node a path names with `f`, making tables and arrays on the way and empty slots
where names or items are missing. A name on a root that is not a table names nothing. -/
def modify : Path → (Datum → Datum) → Datum → Datum
  | .name n, f, .table o ms => .table o (alterMember n f ms)
  | .name _, _, d => d
  | .child p n, f, root => p.modify (fun parent =>
      match parent.asTable with
      | .table o ms => .table o (alterMember n f ms)
      | other => other) root
  | .index p i, f, root => p.modify (fun parent =>
      let (o, items) := match parent with
        | .array o items => (o, items)
        | _ => (none, [])
      let k := itemPosition i items.length
      let items := padTo items (k + 1)
      .array o (items.modify k f)) root

/-- Sets a value at a path. -/
def set : Path → Datum → Datum → Datum
  | .name n, v, root => setMember n v root
  | .child p n, v, root => p.modify (setMember n v) root
  | .index p i, v, root => p.modify (fun parent =>
      let (o, items) := match parent with
        | .array o items => (o, items)
        | _ => (none, [])
      let k := itemPosition i items.length
      .array o ((padTo items (k + 1)).set k v)) root

def isNameChar (c : Char) : Bool :=
  c.isAlphanum || c == ' ' || c == '_' || c == '-'

/-- Reads the text between the brackets of an index: blanks, an optional minus, digits that
fit a signed 64-bit word, blanks. -/
def readIndex (inside : List Char) : Option Int :=
  let blank (c : Char) := c == ' ' || c == '\t'
  let body := ((inside.dropWhile blank).reverse.dropWhile blank).reverse
  let (negative, ds) := match body with
    | '-' :: r => (true, r)
    | r => (false, r)
  if ds.isEmpty || !ds.all Char.isDigit then none
  else
    let n : Int := ds.foldl (fun n c => n * 10 + (c.toNat - 48 : Nat)) 0
    let v := if negative then -n else n
    if -Int.pow 2 63 ≤ v && v < Int.pow 2 63 then some v else none

/-- Reads the members and items after the first name of a path. -/
def readRest (p : Path) : List Char → Option Path
  | [] => some p
  | '.' :: r =>
    let n := r.takeWhile isNameChar
    if n.isEmpty then none
    else readRest (.child p (String.ofList n)) (r.dropWhile isNameChar)
  | '[' :: r =>
    let inside := r.takeWhile (· != ']')
    match h : r.dropWhile (· != ']') with
    | ']' :: rest =>
      have : rest.length < r.length + 1 := by
        have : (r.dropWhile (· != ']')).length ≤ r.length := (List.dropWhile_sublist _).length_le
        rw [h] at this
        simp only [List.length_cons] at this
        omega
      match readIndex inside with
      | some i => readRest (.index p i) rest
      | none => none
    | _ => none
  | _ => none
termination_by cs => cs.length
decreasing_by
  · have : (r.dropWhile isNameChar).length ≤ r.length := (List.dropWhile_sublist _).length_le
    simp only [List.length_cons]
    omega
  · simp only [List.length_cons]
    omega

def parse? (key : String) : Option Path :=
  let cs := key.toList
  let n := cs.takeWhile isNameChar
  if n.isEmpty then none else readRest (.name (String.ofList n)) (cs.dropWhile isNameChar)

/-- The path a key stands for: the key read as a path, or else the member named by the whole
key. -/
def ofKey (key : String) : Path := (parse? key).getD (.name key)

end Path

end VoiceSession.Settings
