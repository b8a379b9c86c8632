/-!
# A bounded channel with waiting senders

Requests reach a running controller through a channel of fixed room, counted in slots. A sender
that finds no room, or others waiting, waits in line, and each slot freed goes to the first in
line, so messages keep their senders' order. Once the receiver is gone every send is refused.
-/

namespace VoiceSession

/-- A bounded channel to one receiver; senders are known by number. -/
structure Channel (α : Type) where
  capacity : Nat
  buffer : List α := []
  waiting : List Nat := []
  granted : List Nat := []
  closed : Bool := false

namespace Channel

variable {α : Type}

def room (ch : Channel α) : Nat := ch.capacity - (ch.buffer.length + ch.granted.length)

/-- What a sender finds. -/
inductive Offer where
  | sent
  | inLine
  | refused
  deriving DecidableEq, Repr

def offer (ch : Channel α) (sender : Nat) (a : α) : Offer × Channel α :=
  if ch.closed then (.refused, ch)
  else if ch.waiting.isEmpty && ch.room > 0 then (.sent, { ch with buffer := ch.buffer ++ [a] })
  else (.inLine, { ch with waiting := ch.waiting ++ [sender] })

def deliver (ch : Channel α) (sender : Nat) (a : α) : Offer × Channel α :=
  if ch.closed then (.refused, ch)
  else (.sent, { ch with granted := ch.granted.erase sender, buffer := ch.buffer ++ [a] })

/-- Takes the oldest message; the slot it frees goes to the first waiting sender, who is
returned so that it can be woken. -/
def take (ch : Channel α) : Option (α × Option Nat × Channel α) :=
  match ch.buffer, ch.waiting with
  | [], _ => none
  | a :: rest, [] => some (a, none, { ch with buffer := rest })
  | a :: rest, s :: line => some (a, some s, { ch with buffer := rest, waiting := line, granted := ch.granted ++ [s] })

def close (ch : Channel α) : Channel α :=
  { ch with buffer := [], waiting := [], granted := [], closed := true }

@[simp] theorem offer_closed (ch : Channel α) (s : Nat) (a : α) (h : ch.closed = true) :
    (ch.offer s a).1 = .refused := by
  simp [offer, h]

theorem take_none_iff (ch : Channel α) : ch.take = none ↔ ch.buffer = [] := by
  unfold take
  split <;> simp_all

end Channel

end VoiceSession
