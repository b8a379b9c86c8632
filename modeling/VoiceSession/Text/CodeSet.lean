/-!
# Sets and tables of code points

Unicode properties are sets of code points, and most of them come in long runs. A `CodeSet` holds
such a set as ranges `lo ..= hi`, disjoint and in increasing order, and finds a code point by
binary search over the starts of the ranges.
-/

namespace VoiceSession.Text

def hexDigitValue (c : Char) : Nat :=
  if '0' ≤ c && c ≤ '9' then c.toNat - 48
  else if 'a' ≤ c && c ≤ 'f' then c.toNat - 87
  else if 'A' ≤ c && c ≤ 'F' then c.toNat - 55
  else 0

def readHex (s : String) : Nat := s.foldl (fun n c => n * 16 + hexDigitValue c) 0

def words (t : String) : List String :=
  (t.split (fun c => c == ' ' || c == '\n')).toList.map (·.toString) |>.filter (!·.isEmpty)

/-- The number of entries in `[lo, hi)` whose start is at most `n`, added to `lo`, when the
starts increase; each step halves the interval. -/
def countAtOrBelow {α : Type} (start : α → Nat) (a : Array α) (n : Nat) : Nat → Nat → Nat → Nat
  | 0, lo, _ => lo
  | fuel + 1, lo, hi =>
    if lo < hi then
      let mid := lo + (hi - lo) / 2
      match a[mid]? with
      | some e =>
        if start e ≤ n then countAtOrBelow start a n fuel (mid + 1) hi
        else countAtOrBelow start a n fuel lo mid
      | none => lo
    else lo

def lastAtOrBelow {α : Type} (start : α → Nat) (a : Array α) (n : Nat) : Option α :=
  match countAtOrBelow start a n (Nat.log2 a.size + 2) 0 a.size with
  | 0 => none
  | k + 1 => a[k]?

structure CodeSet where
  ranges : Array (Nat × Nat)
  deriving Inhabited

namespace CodeSet

def readRange (item : String) : Nat × Nat :=
  match item.splitOn "-" with
  | [lo, hi] => (readHex lo, readHex hi)
  | _ => (readHex item, readHex item)

def ofText (t : String) : CodeSet := ⟨((words t).map readRange).toArray⟩

def ofLines (ls : List String) : CodeSet := ⟨((ls.flatMap words).map readRange).toArray⟩

def contains (s : CodeSet) (n : Nat) : Bool :=
  match lastAtOrBelow Prod.fst s.ranges n with
  | some (_, hi) => n ≤ hi
  | none => false

def has (s : CodeSet) (c : Char) : Bool := s.contains c.toNat

end CodeSet

/-- A map from code points to values: runs `lo ..= hi`, disjoint and in increasing order, each
with one value. A code point in no run has no value. -/
structure CodeMap (α : Type) where
  runs : Array (Nat × Nat × α)

namespace CodeMap

variable {α : Type}

/-- One run of the text form, its value read by `read`: `lo-hi=value` or `lo=value`. A
malformed item is an empty run. -/
def readRun (read : String → α) (item : String) : Nat × Nat × α :=
  match item.splitOn "=" with
  | [r, v] =>
    let (lo, hi) := CodeSet.readRange r
    (lo, hi, read v)
  | _ => (1, 0, read "")

def ofLines (read : String → α) (ls : List String) : CodeMap α :=
  ⟨((ls.flatMap words).map (readRun read)).toArray⟩

def get? (m : CodeMap α) (n : Nat) : Option α :=
  match lastAtOrBelow (·.1) m.runs n with
  | some (_, hi, v) => if n ≤ hi then some v else none
  | none => none

end CodeMap

end VoiceSession.Text
