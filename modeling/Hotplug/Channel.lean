/-!
# Channels

A channel carries what is sent to every reader who was there before. It keeps the latest messages
only, and each reader is a cursor into the sequence of all messages. A reader that falls behind the
oldest message kept learns how many messages are lost to it and goes on from there.
-/

namespace Hotplug

structure Channel (α : Type) where
  /-- How many messages are kept. -/
  slots : Nat
  /-- How many messages have been sent. -/
  sent : Nat
  /-- The messages kept, oldest first. -/
  recent : List α
deriving Repr

/-- The number of the next message a reader is to get. -/
abbrev Cursor := Nat

inductive Received (α : Type) where
  | nothing
  | message (a : α)
  | lagged (lost : Nat)
deriving DecidableEq, Repr

namespace Channel

variable {α : Type}

/-- A channel for at least `capacity` unread messages: the next power of two, and at least one. -/
def new (capacity : Nat) : Channel α :=
  ⟨(max capacity 1).nextPowerOfTwo, 0, []⟩

def send (c : Channel α) (a : α) : Channel α :=
  let all := c.recent ++ [a]
  { c with sent := c.sent + 1, recent := all.drop (all.length - c.slots) }

def sendAll (c : Channel α) (as : List α) : Channel α :=
  as.foldl send c

theorem sendAll_append (c : Channel α) (as bs : List α) :
    c.sendAll (as ++ bs) = (c.sendAll as).sendAll bs :=
  List.foldl_append

def subscribe (c : Channel α) : Cursor :=
  c.sent

def receive (c : Channel α) (at_ : Cursor) : Received α × Cursor :=
  let unread := c.sent - at_
  if unread = 0 then (.nothing, at_)
  else if c.recent.length < unread then
    (.lagged (unread - c.recent.length), c.sent - c.recent.length)
  else
    match c.recent[c.recent.length - unread]? with
    | some a => (.message a, at_ + 1)
    | none => (.nothing, at_)

def drain (c : Channel α) (at_ : Cursor) : List (Received α) × Cursor :=
  go (c.recent.length + 1) at_
where
  go : Nat → Cursor → List (Received α) × Cursor
    | 0, k => ([], k)
    | n + 1, k =>
      match c.receive k with
      | (.nothing, k) => ([], k)
      | (r, k) =>
        let rest := go n k
        (r :: rest.1, rest.2)

end Channel

end Hotplug
