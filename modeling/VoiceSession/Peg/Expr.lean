/-!
# Parsing expression grammars

A grammar is a set of named rules, each a parsing expression. Expressions match literal text
(exactly or ignoring ASCII case), a character range, a character class, any character, the start
or the end of the input, another rule, and are combined by sequence, ordered choice, option,
repetition (zero or more, one or more) and the positive and negative lookaheads `&e` and `!e`.
-/

namespace VoiceSession.Peg

/-- A parsing expression over rules named by `ρ`. -/
inductive Expr (ρ : Type) where
  | lit (s : List Char)
  | litCaseless (s : List Char)
  | range (lo hi : Char)
  | charIn (p : Char → Bool)
  | any
  | start
  | finish
  | call (r : ρ)
  | seq (a b : Expr ρ)
  | alt (a b : Expr ρ)
  | opt (a : Expr ρ)
  | many (a : Expr ρ)
  | many1 (a : Expr ρ)
  | ahead (a : Expr ρ)
  | notAhead (a : Expr ρ)

namespace Expr

def text {ρ : Type} (s : String) : Expr ρ := .lit s.toList

def seqs {ρ : Type} : List (Expr ρ) → Expr ρ
  | [] => .lit []
  | [e] => e
  | e :: es => .seq e (seqs es)

def alts {ρ : Type} : List (Expr ρ) → Expr ρ
  | [] => .charIn fun _ => false
  | [e] => e
  | e :: es => .alt e (alts es)

def times {ρ : Type} (e : Expr ρ) : Nat → Expr ρ
  | 0 => .lit []
  | 1 => e
  | n + 1 => .seq e (times e n)

end Expr

/-- What a match of a rule leaves in the tree, and whether blanks are skipped inside it. -/
inductive Kind where
  | normal
  | silent
  | atomic
  | compound
  | silentAtomic
  deriving DecidableEq, Repr

/-- A grammar: for each rule its kind, its body, its name and its place in the declaration
order, and the two rules that match blanks. -/
structure Grammar (ρ : Type) where
  kind : ρ → Kind
  body : ρ → Expr ρ
  name : ρ → String
  order : ρ → Nat
  whitespace : ρ
  comment : ρ

/-- A node of a parse tree: the rule matched, where its match starts and stops (in characters),
and the nodes of the rules matched inside it. -/
structure Pair (ρ : Type) where
  rule : ρ
  start : Nat
  stop : Nat
  inner : List (Pair ρ)

def Pair.text {ρ : Type} (input : Array Char) (p : Pair ρ) : String :=
  String.ofList (input.extract p.start p.stop).toList

end VoiceSession.Peg
