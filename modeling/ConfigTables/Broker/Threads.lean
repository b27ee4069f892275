import ConfigTables.Broker
/-!
# The broker's threads

The broker keeps its subscriptions in a map guarded by a read-write lock. `Subscribe` and `Close`
take the write lock. Every `Publish` takes the read lock, so publishes run side by side: each
tries the channels of the map one after another, in the order the map gives them, and a try
never blocks. Every subscription made while the broker is open has a goroutine of its own. It
waits for the subscription's context to be cancelled or the broker to close; woken by the
context, it takes the write lock and removes the subscription and closes its channel, if the
subscription is still in the map.

`Threads` is that broker together with its goroutines and the subscribers' receivers, and `step`
makes one atomic move of one of them: a call under the write lock, the start or end of a
publish, one try of a channel, one move of a subscription's goroutine, or one move of a
receiver. A move that is not possible yet (a goroutine that has nothing to wake it, a writer
while publishes hold the read lock) gives nothing; a move on which the runtime panics (a send on
a closed channel, closing a closed channel, a buffer of a size that cannot be made) gives the
panic's message.

Two fields are kept for the proofs only and change no move: what each subscriber has received,
and the log of every try of a channel.
-/

namespace ConfigTables.Broker

/-- A channel of events as the runtime keeps it: the events in its buffer, oldest first, its
capacity, whether it is closed, and how many receivers wait on it. -/
structure Chan (α : Type) where
  buffer : List (String × α)
  capacity : Nat
  closed : Bool
  receivers : Nat
  deriving Repr, Inhabited

/-- Where the goroutine of a subscription stands: there is none (the broker was closed when the
subscription was made), it waits in its `select`, the context woke it and it waits for the lock,
or it has returned. -/
inductive Cleaner where
  | absent
  | waiting
  | woken
  | exited
  deriving Repr, DecidableEq, Inhabited

/-- What one `Subscribe` made: the channel, the event types it takes (all when empty), whether
its context is cancelled, its goroutine, and the events its subscriber has received, in order. -/
structure Line (α : Type) where
  chan : Chan α
  types : List String
  cancelled : Bool
  cleaner : Cleaner
  received : List (String × α)
  deriving Repr, Inhabited

/-- A publish holding the read lock: its number, its event, the channels it tries (those of the
map that take the event's type, when it started) and those it has still to try. -/
structure Sending (α : Type) where
  id : Nat
  event : String × α
  targets : List Nat
  left : List Nat
  deriving Repr, Inhabited

/-- One try of a channel by a publish: the publish's number, the channel, the event, and
whether the event went into the channel (else it was dropped). -/
structure Try (α : Type) where
  id : Nat
  chan : Nat
  event : String × α
  delivered : Bool
  deriving Repr, Inhabited

/-- The broker with its goroutines: the buffer size, every subscription made, in order, those in
the map, whether it is closed, the drop counter, the publishes holding the read lock, how many
publishes have started, and the log of tries. -/
structure Threads (α : Type) where
  size : Int
  lines : List (Line α)
  registry : List Nat
  done : Bool
  dropped : Nat
  sending : List (Sending α)
  started : Nat
  tries : List (Try α)
  deriving Repr, Inhabited

/-- The moves of the broker's threads. -/
inductive Act (α : Type) where
  /-- `Subscribe` to the given types, under the write lock. -/
  | subscribe (types : List String)
  /-- The subscriber cancels the context of subscription `i`. -/
  | cancel (i : Nat)
  /-- The `select` of subscription `i`'s goroutine returns: on the broker's close, or on the
  context. -/
  | wake (i : Nat) (byClose : Bool)
  /-- Subscription `i`'s goroutine, woken by the context, under the write lock. -/
  | cleanup (i : Nat)
  /-- `Publish` takes the read lock and starts. -/
  | publish (t : String) (payload : α)
  /-- Publish `k` tries the `j`-th channel it has left. -/
  | offer (k j : Nat)
  /-- Publish `k`, with no channel left, releases the read lock. -/
  | finish (k : Nat)
  /-- `Close`, under the write lock. -/
  | close
  /-- A receiver starts waiting on channel `i`, which is empty and open. -/
  | await (i : Nat)
  /-- A receiver takes the oldest event of channel `i`'s buffer. -/
  | take (i : Nat)

namespace Line

variable {α : Type}

/-- The subscription as the broker sees it. -/
def sub (l : Line α) : Subscription α := ⟨l.types, l.chan.buffer, l.chan.closed⟩

/-- Whether the subscription takes an event type. -/
def takes (l : Line α) (t : String) : Bool := l.sub.takes t

/-- A subscription made on an open broker: an empty open channel of the given capacity, and a
goroutine waiting. -/
def fresh (capacity : Nat) (types : List String) : Line α :=
  ⟨⟨[], capacity, false, 0⟩, types, false, .waiting, []⟩

/-- A subscription made on a closed broker: an unbuffered channel, already closed, and no
goroutine. -/
def shutAtBirth (types : List String) : Line α :=
  ⟨⟨[], 0, true, 0⟩, types, false, .absent, []⟩

/-- A try of the channel that does not block: a waiting receiver takes the event, else the
buffer does if it has room, else the event is dropped; sending on a closed channel panics. -/
def offer (l : Line α) (e : String × α) : Except String (Line α × Bool) :=
  if l.chan.closed then .error "send on closed channel"
  else if 0 < l.chan.receivers then
    .ok ({ l with
        chan := { l.chan with receivers := l.chan.receivers - 1 }
        received := l.received ++ [e] }, true)
  else if l.chan.buffer.length < l.chan.capacity then
    .ok ({ l with chan := { l.chan with buffer := l.chan.buffer ++ [e] } }, true)
  else .ok (l, false)

/-- The channel closed, and every receiver that waited on it woken. -/
def closeChan (l : Line α) : Line α := { l with chan := { l.chan with closed := true, receivers := 0 } }

/-- Closing the channel; closing a closed channel panics. -/
def shut (l : Line α) : Except String (Line α) :=
  if l.chan.closed then .error "close of closed channel" else .ok l.closeChan

end Line

namespace Threads

variable {α : Type}

/-- A broker with buffers of the given size, and no thread. -/
def init (size : Int) : Threads α := ⟨size, [], [], false, 0, [], 0, []⟩

/-- Closes the channels of the given subscriptions, one after another. -/
def shutAll (lines : List (Line α)) (ids : List Nat) : Except String (List (Line α)) :=
  ids.foldlM (fun ls i =>
    match ls[i]? with
    | some l => l.shut.map (ls.set i)
    | none => .ok ls) lines

/-- The channels of the map that take an event type, in the map's order. -/
def targetsOf (m : Threads α) (t : String) : List Nat :=
  m.registry.filter fun i => (m.lines[i]?).any (·.takes t)

/-- The broker once publish `k` has tried `i`, the `j`-th channel it had left: the line as the try
left it, and whether the event went in. -/
def tried (m : Threads α) (k j : Nat) (s : Sending α) (i : Nat) (r : Line α × Bool) : Threads α :=
  { m with
    lines := m.lines.set i r.1
    sending := m.sending.set k { s with left := s.left.eraseIdx j }
    dropped := if r.2 then m.dropped else m.dropped + 1
    tries := m.tries ++ [⟨s.id, i, s.event, r.2⟩] }

/-- One move of one thread: nothing when it cannot move yet, the panic's message when the
runtime panics, else the new state. -/
def step (m : Threads α) : Act α → Option (Except String (Threads α))
  | .subscribe types =>
    if m.sending ≠ [] then none
    else if m.done then some (.ok { m with lines := m.lines ++ [Line.shutAtBirth types] })
    else if !capacityFits m.size then some (.error "makechan: size out of range")
    else some (.ok { m with
      lines := m.lines ++ [Line.fresh m.size.toNat types]
      registry := m.registry ++ [m.lines.length] })
  | .cancel i =>
    (m.lines[i]?).map fun l => .ok { m with lines := m.lines.set i { l with cancelled := true } }
  | .wake i byClose =>
    match m.lines[i]? with
    | some l =>
      if l.cleaner = .waiting ∧ (if byClose then m.done = true else l.cancelled = true) then
        some (.ok { m with
          lines := m.lines.set i { l with cleaner := if byClose then .exited else .woken } })
      else none
    | none => none
  | .cleanup i =>
    if m.sending ≠ [] then none
    else
      match m.lines[i]? with
      | some l =>
        if l.cleaner ≠ .woken then none
        else if i ∈ m.registry then
          some (l.shut.map fun l' => { m with
            lines := m.lines.set i { l' with cleaner := .exited }
            registry := m.registry.erase i })
        else some (.ok { m with lines := m.lines.set i { l with cleaner := .exited } })
      | none => none
  | .publish t payload =>
    if m.done then some (.ok m)
    else some (.ok { m with
      sending := m.sending ++ [⟨m.started, (t, payload), m.targetsOf t, m.targetsOf t⟩]
      started := m.started + 1 })
  | .offer k j =>
    match m.sending[k]? with
    | some s =>
      match s.left[j]? with
      | some i =>
        match m.lines[i]? with
        | some l =>
          some ((l.offer s.event).map (m.tried k j s i))
        | none => none
      | none => none
    | none => none
  | .finish k =>
    match m.sending[k]? with
    | some s => if s.left = [] then some (.ok { m with sending := m.sending.eraseIdx k }) else none
    | none => none
  | .close =>
    if m.sending ≠ [] then none
    else if m.done then some (.ok m)
    else some ((shutAll m.lines m.registry).map fun ls =>
      { m with lines := ls, registry := [], done := true })
  | .await i =>
    match m.lines[i]? with
    | some l =>
      if l.chan.buffer = [] ∧ l.chan.closed = false then
        some (.ok { m with
          lines := m.lines.set i { l with chan := { l.chan with receivers := l.chan.receivers + 1 } } })
      else none
    | none => none
  | .take i =>
    match m.lines[i]? with
    | some l =>
      match l.chan.buffer with
      | e :: rest =>
        some (.ok { m with
          lines := m.lines.set i { l with chan := { l.chan with buffer := rest }, received := l.received ++ [e] } })
      | [] => none
    | none => none

/-- Plays a schedule of moves one after another: nothing when a move cannot happen when its turn
comes, the panic's message when one panics, else the state at the end. -/
def run (m : Threads α) : List (Act α) → Option (Except String (Threads α))
  | [] => some (.ok m)
  | a :: acts =>
    match m.step a with
    | some (.ok m') => m'.run acts
    | r => r

/-- `SubscriberCount`: the subscriptions in the map. -/
def count (m : Threads α) : Nat := m.registry.length

/-- The broker as its callers see it between calls: the subscriptions made, in order, each with
its types, its buffer and whether its channel is closed. -/
def view (m : Threads α) : Broker α := ⟨m.size, m.lines.map Line.sub, m.done, m.dropped⟩

end Threads

end ConfigTables.Broker
