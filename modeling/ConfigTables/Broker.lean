/-!
# An event broker

Subscribers receive the events published after they subscribed, of the types they asked
for (all types when they named none), each into a buffer of fixed capacity; an event that
finds a subscriber's buffer full is dropped for that subscriber and counted. Closing the
broker closes every subscription; publishing after that does nothing, and subscribing then
yields a subscription that is already closed.
-/

namespace ConfigTables

/-- One subscription: the event types it takes (all when empty), the events waiting in its
buffer, oldest first, and whether it is closed. -/
structure Subscription (α : Type) where
  types : List String
  waiting : List (String × α)
  closed : Bool
  deriving Repr, Inhabited

/-- A broker: buffer capacity, subscriptions by the order they were made, whether it is
closed, and how many deliveries were dropped. -/
structure Broker (α : Type) where
  capacity : Int
  subs : List (Subscription α)
  closed : Bool
  dropped : Nat
  deriving Repr, Inhabited

/-- Whether a subscription takes an event type. -/
def Subscription.takes {α : Type} (s : Subscription α) (t : String) : Bool :=
  s.types.isEmpty || s.types.contains t

namespace Broker

variable {α : Type}

/-- A broker with buffers of the given capacity. -/
def create (capacity : Int) : Broker α := ⟨capacity, [], false, 0⟩

/-- The buffer capacity when none is given. -/
def defaultCapacity : Int := 64

/-- Whether buffers of a capacity can be made: a buffer holds events of 56 bytes each, and
it must fit in the 2^48 bytes an allocation may take, less the 96 bytes that describe it. -/
def capacityFits (capacity : Int) : Bool :=
  0 ≤ capacity && capacity * 56 ≤ 281474976710560

/-- Subscribes to the given event types; the new subscription's number and the broker. An
open broker makes the subscription a buffer, which fails when the capacity does not fit; a
closed broker gives an unbuffered subscription that is already closed. -/
def subscribe (b : Broker α) (types : List String) : Except String (Nat × Broker α) :=
  if !b.closed && !capacityFits b.capacity then .error "makechan: size out of range"
  else .ok (b.subs.length, { b with subs := b.subs ++ [⟨types, [], b.closed⟩] })

/-- Publishes an event to every open subscription that takes its type. -/
def publish (b : Broker α) (t : String) (payload : α) : Broker α :=
  if b.closed then b
  else
    let step := fun (acc : List (Subscription α) × Nat) (s : Subscription α) =>
      if s.closed || !s.takes t then (acc.1 ++ [s], acc.2)
      else if s.waiting.length < b.capacity then (acc.1 ++ [{ s with waiting := s.waiting ++ [(t, payload)] }], acc.2)
      else (acc.1 ++ [s], acc.2 + 1)
    let (subs, lost) := b.subs.foldl step ([], 0)
    { b with subs := subs, dropped := b.dropped + lost }

/-- Takes every waiting event of a subscription; also says whether it is closed. -/
def drain (b : Broker α) (i : Nat) : (List (String × α) × Bool) × Broker α :=
  match b.subs[i]? with
  | none => (([], true), b)
  | some s => ((s.waiting, s.closed), { b with subs := b.subs.set i { s with waiting := [] } })

/-- Closes the broker and every subscription. -/
def close (b : Broker α) : Broker α :=
  { b with closed := true, subs := b.subs.map (fun s => { s with closed := true }) }

/-- The number of open subscriptions. -/
def count (b : Broker α) : Nat := (b.subs.filter (!·.closed)).length

end Broker

end ConfigTables
