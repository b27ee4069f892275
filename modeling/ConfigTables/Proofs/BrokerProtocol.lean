import Mathlib
import ConfigTables.Broker.Threads
/-!
# The broker keeps its protocol under every interleaving

`Threads.run` plays a schedule of the moves of the broker's threads: calls under the write lock,
the tries of the publishes that hold the read lock, the goroutines of the subscriptions and the
subscribers' receivers, in any order. For buffers of a size that can be made, every state a
schedule reaches keeps `Threads.Inv`, and from it:

* `Threads.Inv.step_ok`: no move panics, so no channel is sent on once it is closed and none is
  closed twice;
* `Threads.Inv.offer_ok`: a publish can always try the next channel it has left, so it never
  blocks;
* `Threads.Inv.received_order`: what a subscriber has received, followed by what its buffer
  holds, is the list of events its channel took, in the order of the tries;
* `Threads.Inv.tried_perm`, `Threads.Inv.targets_eq`: a running publish tries, once each, the
  subscriptions that were in the map and took its type when it started;
* `Threads.Inv.offer_try`: a try drops its event only when no receiver waits and the buffer is
  full;
* `schedules_keep_delivery_protocol`: all of it, over every schedule.

A buffer too large to be made panics at the first subscription (`huge_buffer_subscribe_panics`).
-/
namespace ConfigTables.Broker

variable {α : Type}

/-! ## §1 — lists changed at one place -/

section Lists

variable {β : Type} {P : β → Prop}

/-- What holds of every element of a list but the one replaced, and of the new one, holds of every
element after the replacement. -/
theorem forall_mem_set {L : List β} {i : Nat} {a : β} (h : ∀ j b, j ≠ i → L[j]? = some b → P b)
    (ha : P a) : ∀ b ∈ L.set i a, P b := by
  intro b hb
  obtain ⟨j, hj⟩ := List.mem_iff_getElem?.1 hb
  rw [List.getElem?_set] at hj
  split_ifs at hj with h1
  · exact Option.some.inj hj ▸ ha
  · exact h j b (Ne.symm h1) hj

/-- The same by index. -/
theorem forall_getElem?_set {Q : Nat → β → Prop} {L : List β} {i : Nat} {a : β}
    (h : ∀ j b, j ≠ i → L[j]? = some b → Q j b) (ha : Q i a) :
    ∀ j b, (L.set i a)[j]? = some b → Q j b := by
  intro j b hj
  rw [List.getElem?_set] at hj
  split_ifs at hj with h1
  · exact h1 ▸ Option.some.inj hj ▸ ha
  · exact h j b (Ne.symm h1) hj

/-- What holds at every index of a list and at the one after it holds at every index once an
element is appended there. -/
theorem forall_getElem?_snoc {Q : Nat → β → Prop} {L : List β} {a : β}
    (h : ∀ j b, L[j]? = some b → Q j b) (ha : Q L.length a) :
    ∀ j b, (L ++ [a])[j]? = some b → Q j b := by
  intro j b hj
  rw [List.getElem?_append] at hj
  split_ifs at hj with h1
  · exact h j b hj
  · have hj' : j - L.length = 0 := by
      by_contra hne
      simp [List.getElem?_eq_none (by simp; omega : [a].length ≤ j - L.length)] at hj
    obtain rfl : j = L.length := by omega
    obtain rfl : a = b := by simpa using hj
    exact ha

/-- Replacing an element changes a count by what the predicate says of the two elements. -/
theorem countP_set_add {p : β → Bool} {L : List β} {i : Nat} {a b : β} (hb : L[i]? = some b) :
    (L.set i a).countP p + (if p b then 1 else 0) = L.countP p + (if p a then 1 else 0) := by
  obtain ⟨hi, rfl⟩ := List.getElem?_eq_some_iff.1 hb
  rw [List.countP_set hi]
  by_cases hp : p L[i] = true
  · have : 0 < L.countP p := List.countP_pos_iff.2 ⟨_, List.getElem_mem hi, hp⟩
    simp only [hp, if_true]
    omega
  · simp [hp]

end Lists

/-! ## §2 — one channel -/

namespace Line

/-- A channel as the runtime keeps it: receivers wait only on an empty open channel, and the
buffer holds at most its capacity. -/
structure Ok (l : Line α) : Prop where
  waiting : 0 < l.chan.receivers → l.chan.buffer = [] ∧ l.chan.closed = false
  bounded : l.chan.buffer.length ≤ l.chan.capacity

/-- What a move of a subscriber, or of the goroutine of a subscription that stays in the map,
keeps of its line: the types, whether the channel is closed, and the stream of what was received
followed by what waits in the buffer. -/
structure Keeps (l l' : Line α) : Prop where
  types : l'.types = l.types
  closed : l'.chan.closed = l.chan.closed
  stream : l'.received ++ l'.chan.buffer = l.received ++ l.chan.buffer

/-- Which types a subscription takes is read off its types alone. -/
theorem takes_of_types {l l' : Line α} (h : l'.types = l.types) (t : String) :
    l'.takes t = l.takes t := by
  simp [takes, sub, Subscription.takes, h]

@[simp] theorem closeChan_closed (l : Line α) : l.closeChan.chan.closed = true := rfl
@[simp] theorem closeChan_receivers (l : Line α) : l.closeChan.chan.receivers = 0 := rfl
@[simp] theorem closeChan_buffer (l : Line α) : l.closeChan.chan.buffer = l.chan.buffer := rfl
@[simp] theorem closeChan_capacity (l : Line α) : l.closeChan.chan.capacity = l.chan.capacity := rfl
@[simp] theorem closeChan_types (l : Line α) : l.closeChan.types = l.types := rfl
@[simp] theorem closeChan_received (l : Line α) : l.closeChan.received = l.received := rfl

/-- Being well kept is a matter of the channel alone. -/
theorem Ok.of_chan {l l' : Line α} (h : l.Ok) (hc : l'.chan = l.chan) : l'.Ok :=
  ⟨hc ▸ h.waiting, hc ▸ h.bounded⟩

theorem Ok.closeChan {l : Line α} (h : l.Ok) : l.closeChan.Ok :=
  ⟨fun h0 => absurd h0 (by simp), by simpa using h.bounded⟩

theorem shut_of_open {l : Line α} (h : l.chan.closed = false) : l.shut = .ok l.closeChan := by
  simp [shut, h]

theorem fresh_ok (c : Nat) (ts : List String) : (fresh c ts : Line α).Ok :=
  ⟨fun h => absurd h (by simp [fresh]), by simp [fresh]⟩

theorem shutAtBirth_ok (ts : List String) : (shutAtBirth ts : Line α).Ok :=
  ⟨fun h => absurd h (by simp [shutAtBirth]), by simp [shutAtBirth]⟩

/-- **A try of an open channel never panics.** The event goes to a waiting receiver or into the
buffer when either is there, and is dropped otherwise; the line stays well kept, and its stream
grows by the event exactly when the event went in. -/
theorem offer_of_open {l : Line α} (hl : l.Ok) (h : l.chan.closed = false) (e : String × α) :
    ∃ l' d, l.offer e = .ok (l', d) ∧
      (d = true ↔ 0 < l.chan.receivers ∨ l.chan.buffer.length < l.chan.capacity) ∧
      l'.types = l.types ∧ l'.chan.closed = false ∧ l'.Ok ∧
      l'.received ++ l'.chan.buffer = l.received ++ l.chan.buffer ++ (if d then [e] else []) := by
  unfold offer
  simp only [h, Bool.false_eq_true, ↓reduceIte]
  split_ifs with hr hc
  · -- a waiting receiver takes the event; the buffer is empty then
    have hb := (hl.waiting hr).1
    exact ⟨_, _, rfl, by simp [hr], rfl, rfl, ⟨fun _ => ⟨hb, rfl⟩, by simp [hb]⟩, by simp [hb]⟩
  · exact ⟨_, _, rfl, by simp [hc], rfl, rfl, ⟨fun h0 => absurd h0 hr, by simpa using hc⟩, by simp⟩
  · exact ⟨_, _, rfl, by simp [hr, hc], rfl, h, hl, by simp⟩

end Line

/-! ## §3 — the log of tries -/

namespace Try

/-- The events a log of tries put into channel `i`, in the order of the tries. -/
def deliveredTo (ts : List (Try α)) (i : Nat) : List (String × α) :=
  (ts.filter fun t => t.chan == i && t.delivered).map (·.event)

/-- The channels publish `k` tried, in order. -/
def triedBy (ts : List (Try α)) (k : Nat) : List Nat :=
  (ts.filter fun t => t.id == k).map (·.chan)

theorem deliveredTo_snoc (ts : List (Try α)) (t : Try α) (i : Nat) :
    deliveredTo (ts ++ [t]) i =
      deliveredTo ts i ++ (if t.chan = i ∧ t.delivered = true then [t.event] else []) := by
  by_cases hc : t.chan = i <;> cases hd : t.delivered <;> simp [deliveredTo, hc, hd]

theorem triedBy_snoc (ts : List (Try α)) (t : Try α) (k : Nat) :
    triedBy (ts ++ [t]) k = triedBy ts k ++ (if t.id = k then [t.chan] else []) := by
  by_cases h : t.id = k <;> simp [triedBy, h]

/-- No try of the log went to a channel that no try names. -/
theorem deliveredTo_of_lt {ts : List (Try α)} {n : Nat} (h : ∀ t ∈ ts, t.chan < n) :
    deliveredTo ts n = [] := by
  simp only [deliveredTo, List.map_eq_nil_iff, List.filter_eq_nil_iff]
  intro t ht
  have := h t ht
  simp only [Bool.and_eq_true, beq_iff_eq, not_and]
  intro heq
  omega

/-- A publish newer than every try has tried nothing. -/
theorem triedBy_of_lt {ts : List (Try α)} {k : Nat} (h : ∀ t ∈ ts, t.id < k) :
    triedBy ts k = [] := by
  simp only [triedBy, List.map_eq_nil_iff, List.filter_eq_nil_iff, beq_iff_eq]
  intro t ht heq
  have := h t ht
  omega

end Try

/-! ## §4 — the invariant -/

namespace Threads

variable {m : Threads α}

/-- Which subscriptions a type reaches is read off the map and the lines' types alone. -/
theorem targetsOf_set_lines {m' : Threads α} (hr : m'.registry = m.registry) {i : Nat}
    {l l' : Line α} (hl : m.lines[i]? = some l) (hm : m'.lines = m.lines.set i l')
    (ht : l'.types = l.types) (t : String) : m'.targetsOf t = m.targetsOf t := by
  unfold targetsOf
  rw [hr, hm]
  refine List.filter_congr fun j _ => ?_
  by_cases hij : i = j
  · subst hij
    rw [List.getElem?_set_self (List.getElem?_eq_some_iff.1 hl).1, hl]
    simp [Line.takes_of_types ht]
  · rw [List.getElem?_set_ne hij]

/-- The invariant of the broker's threads. -/
structure Inv (m : Threads α) : Prop where
  fits : capacityFits m.size = true
  registered_lt : ∀ i ∈ m.registry, i < m.lines.length
  registry_nodup : m.registry.Nodup
  /-- A subscription is in the map exactly while its channel is open. -/
  registered_iff_open : ∀ i l, m.lines[i]? = some l → (i ∈ m.registry ↔ l.chan.closed = false)
  count_open : m.registry.length = m.lines.countP (!·.chan.closed)
  done_unregistered : m.done = true → m.registry = []
  done_idle : m.done = true → m.sending = []
  lines_ok : ∀ l ∈ m.lines, l.Ok
  /-- What a subscriber received, then what its buffer holds: the events its channel took. -/
  received_order : ∀ i l, m.lines[i]? = some l →
    l.received ++ l.chan.buffer = Try.deliveredTo m.tries i
  tries_lt : ∀ t ∈ m.tries, t.id < m.started ∧ t.chan < m.lines.length
  /-- A running publish targets the subscriptions of the map that take its type. -/
  targets_eq : ∀ s ∈ m.sending, s.targets = m.targetsOf s.event.1
  /-- A running publish has tried some of its targets, once each, and has the others left. -/
  tried_perm : ∀ s ∈ m.sending, (Try.triedBy m.tries s.id ++ s.left).Perm s.targets
  sending_lt : ∀ s ∈ m.sending, s.id < m.started
  sending_nodup : (m.sending.map (·.id)).Nodup
  dropped_eq : m.dropped = m.tries.countP (!·.delivered)

/-- Everything is empty at the start. -/
theorem inv_init {size : Int} (h : capacityFits size = true) : (init size : Threads α).Inv := by
  constructor <;> simp [init, h]

namespace Inv

variable (hi : m.Inv)
include hi

/-- A channel a running publish has left is in the map and takes the publish's type. -/
theorem target_of_left {s : Sending α} (hs : s ∈ m.sending) {i : Nat} (hj : i ∈ s.left) :
    i ∈ m.registry ∧ (m.lines[i]?).any (·.takes s.event.1) = true := by
  have ht : i ∈ s.targets := (hi.tried_perm s hs).subset (List.mem_append_right _ hj)
  rw [hi.targets_eq s hs, targetsOf, List.mem_filter] at ht
  exact ht

/-- A subscription in the map has its line, and the line's channel is open. -/
theorem open_of_registered {i : Nat} (hr : i ∈ m.registry) :
    ∃ l, m.lines[i]? = some l ∧ l.chan.closed = false := by
  have hl := List.getElem?_eq_getElem (hi.registered_lt i hr)
  exact ⟨_, hl, (hi.registered_iff_open i _ hl).1 hr⟩

theorem open_of_not_done {k : Nat} {s : Sending α} (hs : m.sending[k]? = some s) :
    m.done = false := by
  cases hd : m.done
  · rfl
  · simp [hi.done_idle hd] at hs

/-- A move that changes one line as a subscriber, or the goroutine of a subscription, does keeps
the invariant. -/
theorem setLine {i : Nat} {l l' : Line α} (hl : m.lines[i]? = some l) (hk : l.Keeps l')
    (ho : l'.Ok) : ({ m with lines := m.lines.set i l' } : Threads α).Inv :=
  { hi with
    registered_lt := by simpa using hi.registered_lt
    registered_iff_open := forall_getElem?_set (fun j b _ hb => hi.registered_iff_open j b hb)
      (by rw [hk.closed]; exact hi.registered_iff_open i l hl)
    count_open := by
      have h0 := hi.count_open
      have := countP_set_add (p := (!·.chan.closed)) (a := l') hl
      simp only [hk.closed] at this
      dsimp only
      omega
    lines_ok := forall_mem_set (fun _ b _ hb => hi.lines_ok b (List.mem_of_getElem? hb)) ho
    received_order := forall_getElem?_set (fun j b _ hb => hi.received_order j b hb)
      (by rw [hk.stream]; exact hi.received_order i l hl)
    tries_lt := by simpa using hi.tries_lt
    targets_eq := fun s hs => by
      rw [hi.targets_eq s hs]
      refine (targetsOf_set_lines ?_ hl ?_ hk.types _).symm <;> rfl }

/-- A line added after the others is a channel no try has reached: every try stays in range. -/
theorem tries_lt_snoc (l : Line α) :
    ∀ t ∈ m.tries, t.id < m.started ∧ t.chan < (m.lines ++ [l]).length := fun t ht =>
  ⟨(hi.tries_lt t ht).1, by
    have := (hi.tries_lt t ht).2
    simp only [List.length_append, List.length_singleton]
    omega⟩

/-- A line added empty after the others has received what the tries delivered to it: nothing. -/
theorem received_order_snoc {l : Line α} (hl : l.received ++ l.chan.buffer = []) :
    ∀ j b, (m.lines ++ [l])[j]? = some b →
      b.received ++ b.chan.buffer = Try.deliveredTo m.tries j :=
  forall_getElem?_snoc hi.received_order
    (by rw [hl, Try.deliveredTo_of_lt fun t ht => (hi.tries_lt t ht).2])

end Inv

end Threads

/-! ## §5 — every move keeps the invariant and panics on none -/

namespace Threads

variable {m : Threads α} {r : Except String (Threads α)}

/-- Closing the channels of distinct open subscriptions closes exactly those. -/
theorem shutAll_eq {ids : List Nat} (hn : ids.Nodup) :
    ∀ {lines : List (Line α)}, (∀ i ∈ ids, ∃ l, lines[i]? = some l ∧ l.chan.closed = false) →
      shutAll lines ids = .ok (lines.mapIdx fun j l => if j ∈ ids then l.closeChan else l) := by
  induction ids with
  | nil =>
    intro lines _
    exact congrArg Except.ok (List.ext_getElem? fun j => by simp [List.getElem?_mapIdx])
  | cons i ids ih =>
    intro lines h
    obtain ⟨hi, hn⟩ := List.nodup_cons.1 hn
    obtain ⟨l, hl, ho⟩ := h i List.mem_cons_self
    -- the first close leaves the others' lines as they were, so they are still open
    have hrest : ∀ j ∈ ids, ∃ l₀, (lines.set i l.closeChan)[j]? = some l₀ ∧ l₀.chan.closed = false := by
      intro j hj
      rw [List.getElem?_set_ne (fun e : i = j => hi (e ▸ hj))]
      exact h j (List.mem_cons_of_mem _ hj)
    have hfirst : shutAll lines (i :: ids) = shutAll (lines.set i l.closeChan) ids := by
      simp only [shutAll, List.foldlM_cons, hl, Line.shut_of_open ho]
      rfl
    rw [hfirst, ih hn hrest]
    refine congrArg Except.ok (List.ext_getElem? fun j => ?_)
    simp only [List.getElem?_mapIdx, List.mem_cons]
    by_cases hij : i = j
    · subst hij
      rw [List.getElem?_set_self (List.getElem?_eq_some_iff.1 hl).1, hl]
      simp [hi]
    · rw [List.getElem?_set_ne hij]
      simp [Ne.symm hij]

namespace Inv

variable (hi : m.Inv)
include hi

theorem subscribe {ts : List String} (h : m.step (.subscribe ts) = some r) :
    ∃ m', r = .ok m' ∧ m'.Inv := by
  simp only [step] at h
  split_ifs at h with hs hd hc
  · -- a closed broker hands out a channel closed at birth, and keeps its map empty
    cases h
    have hreg := hi.done_unregistered hd
    have hs0 : m.sending = [] := by simpa using hs
    refine ⟨_, rfl, { hi with
      registered_lt := by simp [hreg]
      registered_iff_open := forall_getElem?_snoc hi.registered_iff_open
        (by simp [hreg, Line.shutAtBirth])
      count_open := by simp [List.countP_append, hi.count_open, Line.shutAtBirth]
      lines_ok := by
        simpa [or_imp, forall_and] using ⟨hi.lines_ok, Line.shutAtBirth_ok ts⟩
      received_order := hi.received_order_snoc rfl
      tries_lt := hi.tries_lt_snoc _
      targets_eq := by simp [hs0] }⟩
  · cases h
    exact absurd hi.fits (by simpa using hc)
  · -- an open broker puts a fresh open channel in its map
    cases h
    have hs0 : m.sending = [] := by simpa using hs
    have hnew : m.lines.length ∉ m.registry := fun h' => by simpa using hi.registered_lt _ h'
    refine ⟨_, rfl, { hi with
      registered_lt := fun i h' => by
        have : i < m.lines.length ∨ i = m.lines.length := by
          rcases List.mem_append.1 h' with h' | h'
          · exact .inl (hi.registered_lt i h')
          · exact .inr (List.mem_singleton.1 h')
        simp only [List.length_append, List.length_singleton]
        omega
      registry_nodup := List.nodup_append.2 ⟨hi.registry_nodup, List.nodup_singleton _,
        fun a ha b hb => by rw [List.mem_singleton.1 hb]; exact fun e => hnew (e ▸ ha)⟩
      registered_iff_open := forall_getElem?_snoc (fun j b hb => by
          have hj := (List.getElem?_eq_some_iff.1 hb).1
          simpa [Nat.ne_of_lt hj] using hi.registered_iff_open j b hb)
        (by simp [Line.fresh])
      count_open := by simp [List.countP_append, hi.count_open, Line.fresh]
      done_unregistered := fun h' => absurd h' hd
      lines_ok := by
        simpa [or_imp, forall_and] using ⟨hi.lines_ok, Line.fresh_ok m.size.toNat ts⟩
      received_order := hi.received_order_snoc rfl
      tries_lt := hi.tries_lt_snoc _
      targets_eq := by simp [hs0] }⟩

theorem cancel {i : Nat} (h : m.step (.cancel i) = some r) : ∃ m', r = .ok m' ∧ m'.Inv := by
  simp only [step] at h
  obtain ⟨l, hl, rfl⟩ := Option.map_eq_some_iff.1 h
  exact ⟨_, rfl, hi.setLine hl ⟨rfl, rfl, rfl⟩
    ((hi.lines_ok l (List.mem_of_getElem? hl)).of_chan rfl)⟩

theorem wake {i : Nat} {byClose : Bool} (h : m.step (.wake i byClose) = some r) :
    ∃ m', r = .ok m' ∧ m'.Inv := by
  simp only [step] at h
  cases hl : m.lines[i]? with
  | none => simp [hl] at h
  | some l =>
    simp only [hl] at h
    have hok := hi.lines_ok l (List.mem_of_getElem? hl)
    -- on the close or on the context, the goroutine moves on and the line keeps its channel
    split_ifs at h <;> cases h <;> exact ⟨_, rfl, hi.setLine hl ⟨rfl, rfl, rfl⟩ (hok.of_chan rfl)⟩

theorem cleanup {i : Nat} (h : m.step (.cleanup i) = some r) : ∃ m', r = .ok m' ∧ m'.Inv := by
  simp only [step] at h
  by_cases hs0 : m.sending = []
  swap
  · simp [hs0] at h
  cases hl : m.lines[i]? with
  | none => simp [hl] at h
  | some l =>
    have hok := hi.lines_ok l (List.mem_of_getElem? hl)
    by_cases hw : l.cleaner = .woken
    swap
    · simp [hs0, hl, hw] at h
    have hs1 : ¬m.sending ≠ [] := not_not.2 hs0
    by_cases hr : i ∈ m.registry
    · -- still in the map: the goroutine closes the channel and takes the subscription out
      have hopen := (hi.registered_iff_open i l hl).1 hr
      simp only [hs1, hl, hw, hr, ne_eq, not_true_eq_false, ↓reduceIte,
        Line.shut_of_open hopen] at h
      obtain rfl := Option.some.inj h
      refine ⟨_, rfl, { hi with
        registered_lt := fun j hj => by simpa using hi.registered_lt j (List.mem_of_mem_erase hj)
        registry_nodup := hi.registry_nodup.erase i
        registered_iff_open := forall_getElem?_set
          (fun j b hji hb => by
            rw [hi.registry_nodup.mem_erase_iff]
            simpa [hji] using hi.registered_iff_open j b hb)
          (by simp [hi.registry_nodup.mem_erase_iff])
        count_open := by
          have h0 := hi.count_open
          have := countP_set_add (p := (!·.chan.closed)) (a := { l.closeChan with cleaner := .exited }) hl
          have hpos := List.length_pos_of_mem hr
          simp [hopen] at this
          simp only [Line.closeChan_types, Line.closeChan_received, List.length_erase_of_mem hr]
          omega
        done_unregistered := fun hd => by simp [hi.done_unregistered hd] at hr
        lines_ok := forall_mem_set (fun _ b _ hb => hi.lines_ok b (List.mem_of_getElem? hb))
          (hok.closeChan.of_chan rfl)
        received_order := forall_getElem?_set (fun j b _ hb => hi.received_order j b hb)
          (hi.received_order i l hl)
        tries_lt := by simpa using hi.tries_lt
        targets_eq := by simp [hs0] }⟩
    · simp only [hs1, hl, hw, hr, ne_eq, not_true_eq_false, ↓reduceIte] at h
      cases h
      exact ⟨_, rfl, hi.setLine hl ⟨rfl, rfl, rfl⟩ (hok.of_chan rfl)⟩

theorem publish {t : String} {p : α} (h : m.step (.publish t p) = some r) :
    ∃ m', r = .ok m' ∧ m'.Inv := by
  simp only [step] at h
  split_ifs at h with hd
  · cases h
    exact ⟨m, rfl, hi⟩
  · -- the new publish has the next number, and no try carries it yet
    cases h
    refine ⟨_, rfl, { hi with
      tries_lt := fun t ht => ⟨Nat.lt_succ_of_lt (hi.tries_lt t ht).1, (hi.tries_lt t ht).2⟩
      done_idle := fun h' => absurd h' hd
      targets_eq := fun s hs => by
        rcases List.mem_append.1 hs with hs | hs
        · exact hi.targets_eq s hs
        · rw [List.mem_singleton.1 hs]
          rfl
      tried_perm := by
        simpa [or_imp, forall_and, Try.triedBy_of_lt fun t ht => (hi.tries_lt t ht).1]
          using hi.tried_perm
      sending_lt := by
        simpa [or_imp, forall_and] using fun s hs => Nat.lt_succ_of_lt (hi.sending_lt s hs)
      sending_nodup := by
        simp only [List.map_append, List.map_singleton]
        refine List.nodup_append.2 ⟨hi.sending_nodup, List.nodup_singleton _, fun a ha b hb => ?_⟩
        obtain ⟨s, hs, rfl⟩ := List.mem_map.1 ha
        rw [List.mem_singleton.1 hb]
        exact Nat.ne_of_lt (hi.sending_lt s hs) }⟩

theorem finish {k : Nat} (h : m.step (.finish k) = some r) : ∃ m', r = .ok m' ∧ m'.Inv := by
  simp only [step] at h
  cases hs : m.sending[k]? with
  | none => simp [hs] at h
  | some s =>
    simp only [hs] at h
    split_ifs at h
    cases h
    have hsub := List.eraseIdx_sublist m.sending k
    refine ⟨_, rfl, { hi with
      done_idle := fun hd => absurd hd (by simp [hi.open_of_not_done hs])
      targets_eq := fun s' h' => hi.targets_eq s' (hsub.subset h')
      tried_perm := fun s' h' => hi.tried_perm s' (hsub.subset h')
      sending_lt := fun s' h' => hi.sending_lt s' (hsub.subset h')
      sending_nodup := hi.sending_nodup.sublist (hsub.map _) }⟩

theorem close (h : m.step .close = some r) : ∃ m', r = .ok m' ∧ m'.Inv := by
  simp only [step] at h
  split_ifs at h with hs hd
  · cases h
    exact ⟨m, rfl, hi⟩
  · have hs0 : m.sending = [] := by simpa using hs
    rw [shutAll_eq hi.registry_nodup fun i hr => hi.open_of_registered hr] at h
    cases h
    -- every line is now closed: those of the map by the close, the others were already
    have hline : ∀ (j : Nat) (b : Line α), (m.lines.mapIdx fun j l => if j ∈ m.registry then l.closeChan else l)[j]? =
        some b → ∃ l, m.lines[j]? = some l ∧ b = if j ∈ m.registry then l.closeChan else l := by
      intro j b hb
      rw [List.getElem?_mapIdx] at hb
      obtain ⟨l, hl, rfl⟩ := Option.map_eq_some_iff.1 hb
      exact ⟨l, hl, rfl⟩
    have hclosed : ∀ (j : Nat) (b : Line α), (m.lines.mapIdx fun j l => if j ∈ m.registry then l.closeChan else l)[j]? =
        some b → b.chan.closed = true := by
      intro j b hb
      obtain ⟨l, hl, rfl⟩ := hline j b hb
      by_cases hr : j ∈ m.registry
      · simp [hr]
      · simpa [hr] using (hi.registered_iff_open j l hl).not.1 hr
    refine ⟨_, rfl, { hi with
      registered_lt := by simp
      registry_nodup := List.nodup_nil
      registered_iff_open := fun j b hb => by simp [hclosed j b hb]
      count_open := by
        refine (List.countP_eq_zero.2 fun (b : Line α) hb => ?_).symm
        obtain ⟨j, hj⟩ := List.mem_iff_getElem?.1 hb
        simp [hclosed j b hj]
      done_unregistered := fun _ => rfl
      done_idle := fun _ => hs0
      lines_ok := fun b hb => by
        obtain ⟨j, hj⟩ := List.mem_iff_getElem?.1 hb
        obtain ⟨l, hl, rfl⟩ := hline j b hj
        have hok := hi.lines_ok l (List.mem_of_getElem? hl)
        split_ifs
        · exact hok.closeChan
        · exact hok
      received_order := fun j b hb => by
        obtain ⟨l, hl, rfl⟩ := hline j b hb
        have := hi.received_order j l hl
        split_ifs <;> simpa using this
      tries_lt := by simpa using hi.tries_lt
      targets_eq := by simp [hs0] }⟩

theorem await {i : Nat} (h : m.step (.await i) = some r) : ∃ m', r = .ok m' ∧ m'.Inv := by
  simp only [step] at h
  cases hl : m.lines[i]? with
  | none => simp [hl] at h
  | some l =>
    simp only [hl] at h
    split_ifs at h with hw
    cases h
    exact ⟨_, rfl, hi.setLine hl ⟨rfl, rfl, rfl⟩
      ⟨fun _ => hw, (hi.lines_ok l (List.mem_of_getElem? hl)).bounded⟩⟩

theorem take {i : Nat} (h : m.step (.take i) = some r) : ∃ m', r = .ok m' ∧ m'.Inv := by
  simp only [step] at h
  cases hl : m.lines[i]? with
  | none => simp [hl] at h
  | some l =>
    have hok := hi.lines_ok l (List.mem_of_getElem? hl)
    simp only [hl] at h
    split at h
    · rename_i e rest hb
      cases h
      -- a receiver only waits on an empty buffer, so none waits on this one
      refine ⟨_, rfl, hi.setLine hl ⟨rfl, rfl, by simp [hb]⟩ ⟨fun h0 => ?_, ?_⟩⟩
      · simp [hok.waiting h0] at hb
      · have := hok.bounded
        simp only [hb, List.length_cons] at this
        simp only
        omega
    · cases h

end Inv

end Threads

/-! ## §6 — the tries of a publish -/

namespace Threads

section Tried

variable (m : Threads α) (k j : Nat) (s : Sending α) (i : Nat) (x : Line α × Bool)

@[simp] theorem tried_size : (m.tried k j s i x).size = m.size := rfl
@[simp] theorem tried_lines : (m.tried k j s i x).lines = m.lines.set i x.1 := rfl
@[simp] theorem tried_registry : (m.tried k j s i x).registry = m.registry := rfl
@[simp] theorem tried_done : (m.tried k j s i x).done = m.done := rfl
@[simp] theorem tried_sending :
    (m.tried k j s i x).sending = m.sending.set k { s with left := s.left.eraseIdx j } := rfl
@[simp] theorem tried_started : (m.tried k j s i x).started = m.started := rfl
@[simp] theorem tried_dropped :
    (m.tried k j s i x).dropped = if x.2 then m.dropped else m.dropped + 1 := rfl
@[simp] theorem tried_tries :
    (m.tried k j s i x).tries = m.tries ++ [⟨s.id, i, s.event, x.2⟩] := rfl

end Tried

variable {m : Threads α} {r : Except String (Threads α)}

/-- What a try of a running publish looks at: the publish, the channel it tries, and the line. -/
theorem step_offer {k j : Nat} (h : m.step (.offer k j) = some r) :
    ∃ s i l, m.sending[k]? = some s ∧ s.left[j]? = some i ∧ m.lines[i]? = some l ∧
      r = (l.offer s.event).map (m.tried k j s i) := by
  simp only [step] at h
  cases hs : m.sending[k]? with
  | none => simp [hs] at h
  | some s =>
    cases hj : s.left[j]? with
    | none => simp [hs, hj] at h
    | some i =>
      cases hl : m.lines[i]? with
      | none => simp [hs, hj, hl] at h
      | some l =>
        simp only [hs, hj, hl] at h
        exact ⟨s, i, l, rfl, hj, hl, (Option.some.inj h).symm⟩

namespace Inv

variable (hi : m.Inv)
include hi

/-- Two running publishes have different numbers. -/
theorem id_ne {k k' : Nat} {s s' : Sending α} (hs : m.sending[k]? = some s)
    (hs' : m.sending[k']? = some s') (hk : k' ≠ k) : s'.id ≠ s.id := by
  intro he
  have hlt : k' < (m.sending.map (·.id)).length := by
    simpa using (List.getElem?_eq_some_iff.1 hs').1
  refine hk ((List.getElem?_inj hlt hi.sending_nodup).1 ?_)
  simp [hs, hs', he]

/-- **A try of a channel that a running publish has left keeps the invariant**: the channel takes
the event or drops it, the publish moves the channel from what it has left to what it tried, and
the log and the drop counter record the try. -/
theorem tried {k j : Nat} {s : Sending α} {i : Nat} {l l' : Line α} {d : Bool}
    (hs : m.sending[k]? = some s) (hj : s.left[j]? = some i) (hl : m.lines[i]? = some l)
    (hty : l'.types = l.types) (hcl : l'.chan.closed = false) (hok : l'.Ok)
    (hstr : l'.received ++ l'.chan.buffer =
      l.received ++ l.chan.buffer ++ (if d then [s.event] else [])) :
    (m.tried k j s i (l', d)).Inv := by
  have hsm := List.mem_of_getElem? hs
  have hreg := (hi.target_of_left hsm (List.mem_of_getElem? hj)).1
  have hopen := (hi.registered_iff_open i l hl).1 hreg
  have htg : ∀ t, (m.tried k j s i (l', d)).targetsOf t = m.targetsOf t :=
    targetsOf_set_lines rfl hl rfl hty
  -- the publish keeps its number, so the numbers of the running publishes stay the same
  have hids : (m.sending.set k { s with left := s.left.eraseIdx j }).map (·.id) =
      m.sending.map (·.id) := by
    refine List.ext_getElem? fun n => ?_
    simp only [List.getElem?_map, List.getElem?_set]
    split_ifs with h1 h2
    · subst h1
      simp [hs]
    · exact absurd (List.getElem?_eq_some_iff.1 hs).1 h2
    · rfl
  exact { hi with
    registered_lt := by simpa using hi.registered_lt
    registered_iff_open := forall_getElem?_set (fun j b _ hb => hi.registered_iff_open j b hb)
      (by simpa [hcl] using hreg)
    count_open := by
      have h0 := hi.count_open
      have := countP_set_add (p := (!·.chan.closed)) (a := l') hl
      simp only [hcl, hopen] at this
      simp only [tried_registry, tried_lines]
      omega
    done_idle := fun hd => by simp [hi.open_of_not_done hs] at hd
    lines_ok := forall_mem_set (fun _ b _ hb => hi.lines_ok b (List.mem_of_getElem? hb)) hok
    received_order := by
      simp only [tried_lines, tried_tries]
      refine forall_getElem?_set (fun j' b hji hb => ?_) ?_
      · rw [Try.deliveredTo_snoc, if_neg fun h => hji h.1.symm, List.append_nil]
        exact hi.received_order j' b hb
      · rw [hstr, hi.received_order i l hl, Try.deliveredTo_snoc]
        simp
    tries_lt := by
      simp only [tried_tries, tried_started, tried_lines, List.length_set, List.mem_append,
        List.mem_singleton]
      rintro t (ht | rfl)
      · exact hi.tries_lt t ht
      · exact ⟨hi.sending_lt s hsm, hi.registered_lt i hreg⟩
    targets_eq := by
      simp only [tried_sending, htg]
      exact forall_mem_set (fun _ s' _ hs' => hi.targets_eq s' (List.mem_of_getElem? hs'))
        (hi.targets_eq s hsm)
    tried_perm := by
      simp only [tried_sending, tried_tries]
      refine forall_mem_set (fun k' s' hk' hs' => ?_) ?_
      · -- another publish: the try is not one of its own
        rw [Try.triedBy_snoc, if_neg (hi.id_ne hs hs' hk').symm, List.append_nil]
        exact hi.tried_perm s' (List.mem_of_getElem? hs')
      · -- this publish: the channel goes from what it has left to what it tried
        rw [Try.triedBy_snoc, if_pos rfl, List.append_assoc]
        refine List.Perm.trans (List.Perm.append_left _ ?_) (hi.tried_perm s hsm)
        obtain ⟨hjl, rfl⟩ := List.getElem?_eq_some_iff.1 hj
        exact List.getElem_cons_eraseIdx_perm hjl
    sending_lt := by
      simp only [tried_sending, tried_started]
      exact forall_mem_set (fun _ s' _ hs' => hi.sending_lt s' (List.mem_of_getElem? hs'))
        (hi.sending_lt s hsm)
    sending_nodup := by
      simp only [tried_sending, hids]
      exact hi.sending_nodup
    dropped_eq := by
      simp only [tried_dropped, tried_tries, List.countP_append, hi.dropped_eq]
      cases d <;> simp }

theorem offer {k j : Nat} (h : m.step (.offer k j) = some r) : ∃ m', r = .ok m' ∧ m'.Inv := by
  obtain ⟨s, i, l, hs, hj, hl, rfl⟩ := step_offer h
  have hreg := (hi.target_of_left (List.mem_of_getElem? hs) (List.mem_of_getElem? hj)).1
  obtain ⟨l', d, hoff, -, hty, hcl, hok, hstr⟩ := Line.offer_of_open
    (hi.lines_ok l (List.mem_of_getElem? hl)) ((hi.registered_iff_open i l hl).1 hreg) s.event
  rw [hoff]
  exact ⟨_, rfl, hi.tried hs hj hl hty hcl hok hstr⟩

/-- **Every move keeps the invariant, and none panics.** -/
theorem step_ok {a : Act α} (h : m.step a = some r) : ∃ m', r = .ok m' ∧ m'.Inv := by
  cases a with
  | subscribe ts => exact hi.subscribe h
  | cancel i => exact hi.cancel h
  | wake i byClose => exact hi.wake h
  | cleanup i => exact hi.cleanup h
  | publish t p => exact hi.publish h
  | offer k j => exact hi.offer h
  | finish k => exact hi.finish h
  | close => exact hi.close h
  | await i => exact hi.await h
  | take i => exact hi.take h

/-- No move panics. -/
theorem no_panic (a : Act α) (e : String) : m.step a ≠ some (.error e) := fun h => by
  obtain ⟨_, h', -⟩ := hi.step_ok h
  cases h'

/-- **Every schedule keeps the invariant and panics nowhere**: by induction on the schedule, each
move from a state that keeps the invariant reaches one that keeps it. -/
theorem run_ok {acts : List (Act α)} (h : m.run acts = some r) : ∃ m', r = .ok m' ∧ m'.Inv := by
  induction acts generalizing m with
  | nil =>
    simp only [run, Option.some.injEq] at h
    exact ⟨m, h.symm, hi⟩
  | cons a acts ih =>
    simp only [run] at h
    cases hs : m.step a with
    | none => simp [hs] at h
    | some r' =>
      obtain ⟨m', rfl, hi'⟩ := hi.step_ok hs
      simp only [hs] at h
      exact ih hi' h

/-- **A publish never blocks**: it can try any channel it has left, whenever its turn comes. -/
theorem offer_ok {k : Nat} {s : Sending α} (hs : m.sending[k]? = some s) {j : Nat}
    (hj : j < s.left.length) : ∃ m', m.step (.offer k j) = some (.ok m') := by
  have hreg := (hi.target_of_left (List.mem_of_getElem? hs) (List.getElem_mem hj)).1
  obtain ⟨l, hl, hopen⟩ := hi.open_of_registered hreg
  obtain ⟨l', d, hoff, -⟩ := Line.offer_of_open (hi.lines_ok l (List.mem_of_getElem? hl)) hopen s.event
  refine ⟨m.tried k j s s.left[j] (l', d), ?_⟩
  simp only [step, hs, List.getElem?_eq_getElem hj, hl, hoff]
  rfl

/-- A try goes to a subscription of the map that takes the event's type, and drops the event only
when no receiver waits on the channel and its buffer is full. -/
theorem offer_try {k j : Nat} {m' : Threads α} (h : m.step (.offer k j) = some (.ok m')) :
    ∃ s i l, m.sending[k]? = some s ∧ s.left[j]? = some i ∧ m.lines[i]? = some l ∧
      i ∈ m.registry ∧ l.takes s.event.1 = true ∧
      ∃ d, m'.tries = m.tries ++ [⟨s.id, i, s.event, d⟩] ∧
        (d = true ↔ 0 < l.chan.receivers ∨ l.chan.buffer.length < l.chan.capacity) := by
  obtain ⟨s, i, l, hs, hj, hl, hr⟩ := step_offer h
  obtain ⟨hreg, htk⟩ := hi.target_of_left (List.mem_of_getElem? hs) (List.mem_of_getElem? hj)
  obtain ⟨l', d, hoff, hd, -⟩ := Line.offer_of_open (hi.lines_ok l (List.mem_of_getElem? hl))
    ((hi.registered_iff_open i l hl).1 hreg) s.event
  rw [hoff] at hr
  obtain rfl : m' = m.tried k j s i (l', d) := Except.ok.inj hr
  exact ⟨s, i, l, hs, hj, hl, hreg, by simpa [hl] using htk, d, rfl, hd⟩

/-- `SubscriberCount` is the number of open channels among the subscriptions made. -/
theorem count_eq_view : m.count = m.view.count := by
  simp [count, view, Broker.count, hi.count_open, List.countP_eq_length_filter, List.filter_map,
    Line.sub, Function.comp_def]

/-- **After `Close`** every channel is closed, a publish does nothing, and a subscription gets a
channel that is closed from the start. -/
theorem closed_after (hd : m.done = true) :
    (∀ l ∈ m.lines, l.chan.closed = true) ∧ (∀ t p, m.step (.publish t p) = some (.ok m)) ∧
      ∀ ts, m.step (.subscribe ts) = some (.ok { m with lines := m.lines ++ [Line.shutAtBirth ts] }) := by
  refine ⟨fun l hl => ?_, fun t p => by simp [step, hd], fun ts => by
    simp [step, hd, hi.done_idle hd]⟩
  obtain ⟨i, hi'⟩ := List.mem_iff_getElem?.1 hl
  simpa [hi.done_unregistered hd] using hi.registered_iff_open i l hi'

end Inv

/-- A publish can always start, and one with no channel left can always end. -/
theorem publish_ok (m : Threads α) (t : String) (p : α) :
    ∃ m', m.step (.publish t p) = some (.ok m') := by
  simp only [step]
  split_ifs
  · exact ⟨_, rfl⟩
  · exact ⟨_, rfl⟩

theorem finish_ok {m : Threads α} {k : Nat} {s : Sending α} (hs : m.sending[k]? = some s)
    (hl : s.left = []) : ∃ m', m.step (.finish k) = some (.ok m') :=
  ⟨{ m with sending := m.sending.eraseIdx k }, by simp [step, hs, hl]⟩

end Threads

/-! ## §7 — every schedule -/

open Threads in
/-- **The broker keeps its protocol under every schedule of its threads**, for buffers of a size
that can be made. No schedule panics, so no channel is sent on once closed and none is closed
twice. In every state a schedule reaches:

* no move panics; a publish can always start, try any channel it has left, and end once it has
  none left;
* what each subscriber received, then what its buffer holds, are the events its channel took, in
  the order of the tries;
* a running publish targets the subscriptions of the map that take its type, and tries each once;
* a try goes to a subscription of the map that takes the event's type, and drops the event only
  when no receiver waits and the buffer is full; the drop counter counts the dropped tries;
* `SubscriberCount` counts the open channels among the subscriptions made;
* once the broker is closed, every channel is closed, a publish does nothing, and a subscription
  gets a channel closed from the start. -/
theorem schedules_keep_delivery_protocol {size : Int} (hfits : capacityFits size = true)
    (acts : List (Act α)) :
    (∀ e, (init size : Threads α).run acts ≠ some (.error e)) ∧
    ∀ m, (init size : Threads α).run acts = some (.ok m) →
      (∀ a e, m.step a ≠ some (.error e)) ∧
      (∀ t p, ∃ m', m.step (.publish t p) = some (.ok m')) ∧
      (∀ k s, m.sending[k]? = some s →
        (∀ j < s.left.length, ∃ m', m.step (.offer k j) = some (.ok m')) ∧
        (s.left = [] → ∃ m', m.step (.finish k) = some (.ok m'))) ∧
      (∀ i l, m.lines[i]? = some l → l.received ++ l.chan.buffer = Try.deliveredTo m.tries i) ∧
      (∀ s ∈ m.sending, s.targets = m.targetsOf s.event.1 ∧
        (Try.triedBy m.tries s.id ++ s.left).Perm s.targets) ∧
      (∀ k j m', m.step (.offer k j) = some (.ok m') →
        ∃ s i l, m.sending[k]? = some s ∧ s.left[j]? = some i ∧ m.lines[i]? = some l ∧
          i ∈ m.registry ∧ l.takes s.event.1 = true ∧
          ∃ d, m'.tries = m.tries ++ [⟨s.id, i, s.event, d⟩] ∧
            (d = true ↔ 0 < l.chan.receivers ∨ l.chan.buffer.length < l.chan.capacity)) ∧
      m.dropped = m.tries.countP (!·.delivered) ∧
      m.count = m.view.count ∧
      (m.done = true → (∀ l ∈ m.lines, l.chan.closed = true) ∧
        (∀ t p, m.step (.publish t p) = some (.ok m)) ∧
        ∀ ts, m.step (.subscribe ts) =
          some (.ok { m with lines := m.lines ++ [Line.shutAtBirth ts] })) := by
  have h0 := inv_init (α := α) hfits
  refine ⟨fun e h => ?_, fun m h => ?_⟩
  · obtain ⟨_, h', -⟩ := h0.run_ok h
    cases h'
  · obtain ⟨m', h', hi⟩ := h0.run_ok h
    cases h'
    exact ⟨hi.no_panic, publish_ok m, fun k s hs => ⟨fun j hj => hi.offer_ok hs hj, finish_ok hs⟩,
      hi.received_order, fun s hs => ⟨hi.targets_eq s hs, hi.tried_perm s hs⟩,
      fun k j m' h => hi.offer_try h, hi.dropped_eq, hi.count_eq_view, hi.closed_after⟩

/-- A subscriber that waits, a publish that hands it the event and ends, a cancellation that its
goroutine sees, and the close: the schedule runs without a panic. -/
theorem waiting_subscriber_schedule_runs :
    capacityFits 1 = true ∧
      ∀ e, (Threads.init 1 : Threads String).run
        [.subscribe [], .await 0, .publish "t" "x", .offer 0 0, .finish 0, .cancel 0,
          .wake 0 false, .close, .cleanup 0] ≠ some (.error e) :=
  ⟨by decide, (schedules_keep_delivery_protocol (by decide) _).1⟩

/-- A buffer too large to be made panics at the first subscription, in the calls and in the
threads alike. -/
theorem huge_buffer_subscribe_panics :
    (Broker.create 1000000000000000 : Broker String).subscribe [] =
        .error "makechan: size out of range" ∧
      (Threads.init 1000000000000000 : Threads String).run [.subscribe []] =
        some (.error "makechan: size out of range") :=
  ⟨rfl, rfl⟩

end ConfigTables.Broker
