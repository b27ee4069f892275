import Mathlib
import ConfigTables.Watch
/-!
# The watcher's loop reports each touch once

A schedule is what happens at each turn, pick by pick (`Watch.Pick`); it is feasible when each
pick can happen in turn (`Watch.Loop.feasible`), so it ends where the loop returns. Cut a schedule
where the timer fires: each firing closes a stretch of touches (`Watch.gathered`).

Over every feasible schedule, the loop puts on its channel changes and then, once it has
returned, the close. The changes, followed by the one it is sending or, once it has returned,
the one it dropped, report the closed stretches one for one (`Watch.Loop.Accounts`): each lists
exactly the names its stretch touched, each once, in increasing order, and is not empty. So no
touch is reported in two changes, and one is lost only in the change dropped at the return or
among the files still pending there. A touch that does not count leaves the loop as it was,
timer included, and nothing is put on the channel after the close.

Stopping the watcher only closes the stop signal: the loop can still take a ready timer and put
one more change on its channel before it returns (`Watch.change_sent_after_stop`).

A quiet period taken from a loop at rest, then the timer and the receiver, puts on the
channel the change `Watch.change` computes from the period's events
(`Watch.Loop.run_quiet_period`): the batches the watch command reads are the loop's.
-/

namespace ConfigTables.Watch

/-! ## Stretches of a schedule -/

/-- What one pick brings to the stretches of a schedule: an event its name, when it counts; a
firing closes the current stretch. -/
def gather (c : Config) (g : List (List String) × List String) : Pick →
    List (List String) × List String
  | .event e => (g.1, g.2 ++ (c.relevant e).toList)
  | .fire => (g.1 ++ [g.2], [])
  | _ => g

/-- The names a schedule's events touch, cut where the timer fires: the stretches the firings
close, in order, and the names touched since the last firing. -/
def gathered (c : Config) (ps : List Pick) : List (List String) × List String :=
  ps.foldl (gather c) ([], [])

/-- A change reports a stretch when it lists exactly the stretch's names, each once, in
increasing order, and is not empty. -/
def Reports (note : Note) (names : List String) : Prop :=
  ∃ files, note = .change files ∧ files ≠ [] ∧ files.Pairwise (· < ·) ∧ ∀ n, n ∈ files ↔ n ∈ names

namespace Loop

/-- Whether each pick of a schedule can happen in turn. A loop that has returned takes nothing,
so a feasible schedule ends where the loop returns. -/
def feasible (c : Config) : Loop → List Pick → Bool
  | _, [] => true
  | s, p :: ps => s.takes p && (s.step c p).1.feasible c ps

variable {c : Config} {s : Loop} {p : Pick}

/-! ## Runs -/

theorem run_append (s : Loop) (ps qs : List Pick) :
    s.run c (ps ++ qs) =
      (((s.run c ps).1.run c qs).1, (s.run c ps).2 ++ ((s.run c ps).1.run c qs).2) := by
  induction ps generalizing s with
  | nil => simp [run]
  | cons p ps ih => simp [run, ih]

theorem takes_of_stopped (h : s.stopped = true) (p : Pick) : s.takes p = false := by
  cases p <;> simp [takes, h]

theorem running_of_takes (h : s.takes p = true) : s.stopped = false := by
  cases p <;> simp_all [takes]

/-- **A loop that has returned takes nothing more**, so nothing follows the close. -/
theorem run_of_stopped (h : s.stopped = true) (ps : List Pick) : s.run c ps = (s, []) := by
  induction ps with
  | nil => rfl
  | cons p ps ih => simp [run, step, takes_of_stopped h, ih]

/-- The loop returns only by taking the stop signal or seeing the file system's channels closed:
it closes its channel and keeps the rest of its state, the change it was sending included. -/
theorem step_of_returns (hp : s.takes p = true) (h : (s.step c p).1.stopped = true) :
    (p = .quit ∨ p = .hangUp) ∧ s.step c p = ({ s with stopped := true }, [.close]) := by
  have hs := running_of_takes hp
  cases p with
  | quit => exact ⟨.inl rfl, by simp [step, hp]⟩
  | hangUp => exact ⟨.inr rfl, by simp [step, hp]⟩
  | event e =>
    cases hr : c.relevant e <;> simp [step, hp, hr, hs] at h
  | fire =>
    by_cases he : s.pending.isEmpty <;> simp [step, hp, he, hs] at h
  | error | deliver | stop => simp [step, hp, hs] at h

/-- **A touch that does not count leaves the loop as it was**: the timer is not armed. -/
theorem step_irrelevant {e : Files.Event} (h : c.relevant e = none) (s : Loop) :
    s.step c (.event e) = (s, []) := by
  unfold step
  split
  · simp only [h]
  · rfl

/-! ## The account the loop keeps -/

/-- Sorting distinct names in path order puts them in increasing order. -/
theorem mergeSort_strict {l : List String} (h : l.Nodup) :
    (l.mergeSort fun a b => decide (a ≤ b)).Pairwise (· < ·) := by
  have hsorted : (l.mergeSort fun a b => decide (a ≤ b)).Pairwise
      (fun a b => decide (a ≤ b) = true) :=
    List.pairwise_mergeSort
      (fun a b c hab hbc => by simp only [decide_eq_true_eq] at *; exact le_trans hab hbc)
      (fun a b => by simpa using le_total a b) l
  have hnodup := (List.mergeSort_perm l fun a b => decide (a ≤ b)).nodup_iff.mpr h
  rw [List.nodup_iff_pairwise_ne] at hnodup
  exact (hsorted.and hnodup).imp fun ⟨hle, hne⟩ => lt_of_le_of_ne (by simpa using hle) hne

/-- A change built from the files pending reports them. -/
theorem reports_mergeSort {l names : List String} (hl : l.Nodup) (hne : l ≠ [])
    (hmem : ∀ n, n ∈ l ↔ n ∈ names) :
    Reports (.change (l.mergeSort fun a b => decide (a ≤ b))) names := by
  have hperm := List.mergeSort_perm l fun a b => decide (a ≤ b)
  refine ⟨_, rfl, fun h => hne ?_, mergeSort_strict hl, fun n => hperm.mem_iff.trans (hmem n)⟩
  exact List.eq_nil_of_length_eq_zero (hperm.length_eq ▸ List.length_eq_zero_iff.mpr h)

/-- The loop keeps account of a schedule's stretches: the changes it put on its channel, then
the one it is sending (or dropped, once it has returned), report the closed stretches one for
one; and its pending files are the names touched since, each once, with the timer armed exactly
when there are some. -/
structure Accounts (c : Config) (s : Loop) (sent : List Note)
    (g : List (List String) × List String) : Prop where
  reported : List.Forall₂ Reports (sent ++ (s.sending.map Note.change).toList) g.1
  nodup : s.pending.Nodup
  pending : ∀ n, n ∈ s.pending ↔ n ∈ g.2
  armed : s.armed = !s.pending.isEmpty

theorem Accounts.idle (c : Config) : Accounts c idle [] ([], []) :=
  ⟨.nil, List.nodup_nil, fun _ => Iff.rfl, rfl⟩

variable {sent : List Note} {g : List (List String) × List String}

/-- A counting touch while the loop gathers: its name joins the pending files once. -/
theorem Accounts.touch (h : Accounts c s sent g) (hsend : s.sending = none) (name : String) :
    Accounts c { s with
        pending := if s.pending.contains name then s.pending else s.pending ++ [name]
        armed := true } sent (g.1, g.2 ++ [name]) := by
  by_cases hmem : name ∈ s.pending
  · have hg : name ∈ g.2 := (h.pending name).1 hmem
    refine ⟨by simpa [hsend] using h.reported, by simpa [hmem] using h.nodup,
      fun n => ?_, by simp [hmem, List.ne_nil_of_mem hmem]⟩
    simp only [List.elem_eq_mem, decide_eq_true hmem, if_true, List.mem_append,
      List.mem_singleton]
    constructor
    · exact fun hn => .inl ((h.pending n).1 hn)
    · rintro (hn | rfl)
      · exact (h.pending n).2 hn
      · exact hmem
  · refine ⟨by simpa [hsend] using h.reported, ?_, fun n => ?_, by simp [hmem]⟩
    · simpa [hmem] using h.nodup.append (List.nodup_singleton name)
        (List.disjoint_singleton.2 hmem)
    · simp [hmem, h.pending n]

/-- The timer firing while the loop gathers: the pending files become the change to send,
which reports the stretch the firing closes. -/
theorem Accounts.fire (h : Accounts c s sent g) (hsend : s.sending = none)
    (hne : s.pending ≠ []) :
    Accounts c { s with
        pending := []
        armed := false
        sending := some (s.pending.mergeSort fun a b => decide (a ≤ b)) } sent
      (g.1 ++ [g.2], []) := by
  refine ⟨?_, List.nodup_nil, fun _ => by simp, rfl⟩
  have hold : List.Forall₂ Reports sent g.1 := by simpa [hsend] using h.reported
  exact List.rel_append hold (.cons (reports_mergeSort h.nodup hne h.pending) .nil)

/-- The return keeps the account: the change being sent stays there, dropped. -/
theorem Accounts.returned (h : Accounts c s sent g) :
    Accounts c { s with stopped := true } sent g :=
  ⟨h.reported, h.nodup, h.pending, h.armed⟩

/-- **One step keeps the account**, for a pick that can happen and leaves the loop running. -/
theorem Accounts.step (h : Accounts c s sent g) (hp : s.takes p = true)
    (hnext : (s.step c p).1.stopped = false) :
    Accounts c (s.step c p).1 (sent ++ (s.step c p).2) (gather c g p) := by
  cases p with
  | event e =>
    have hsend : s.sending = none := by simp_all [takes]
    cases hr : c.relevant e with
    | none => simpa [step_irrelevant hr, gather, hr] using h
    | some name =>
      simpa [Loop.step, hp, hr, gather] using h.touch hsend name
  | error => simpa [Loop.step, hp, gather] using h
  | fire =>
    have hsend : s.sending = none := by simp_all [takes]
    have hne : s.pending ≠ [] := by
      intro he
      have harmed := h.armed
      simp_all [takes]
    simpa [Loop.step, hp, gather, hne] using h.fire hsend hne
  | deliver =>
    -- the change being sent moves onto the channel: the account reads the same
    obtain ⟨-, ch, hch⟩ : s.stopped = false ∧ ∃ ch, s.sending = some ch := by
      simpa [takes, Option.isSome_iff_exists] using hp
    have hstep : s.step c .deliver = ({ s with sending := none }, [.change ch]) := by
      simp [Loop.step, hp, hch]
    rw [hstep]
    refine ⟨?_, h.nodup, h.pending, h.armed⟩
    simpa [hch, gather] using h.reported
  | stop =>
    -- stopping the watcher only closes the stop signal
    have hstep : s.step c .stop = ({ s with done := true }, []) := by simp [Loop.step, hp]
    rw [hstep]
    exact ⟨by simpa [gather] using h.reported, h.nodup, h.pending, h.armed⟩
  | quit | hangUp => simp [Loop.step, hp] at hnext

/-- **A feasible run from a running loop keeps the account**: the loop puts changes on its
channel, then the close exactly when it has returned. -/
theorem Accounts.run (h : Accounts c s sent g) (hs : s.stopped = false) {ps : List Pick}
    (hf : s.feasible c ps = true) :
    ∃ sent', (s.run c ps).2 = sent' ++ (if (s.run c ps).1.stopped then [.close] else []) ∧
      Accounts c (s.run c ps).1 (sent ++ sent') (ps.foldl (gather c) g) := by
  induction ps generalizing s sent g with
  | nil => exact ⟨[], by simp [run, hs], by simpa [run] using h⟩
  | cons p ps ih =>
    simp only [feasible, Bool.and_eq_true] at hf
    obtain ⟨hp, hf⟩ := hf
    cases hnext : (s.step c p).1.stopped with
    | false =>
      obtain ⟨sent', hnotes, hacc⟩ := ih (h.step hp hnext) hnext hf
      refine ⟨(s.step c p).2 ++ sent', ?_, ?_⟩
      · simp [run, hnotes]
      · simpa [run, List.append_assoc] using hacc
    | true =>
      -- the loop returned: it takes nothing more, so the schedule ends here
      obtain ⟨hret, hstep⟩ := step_of_returns hp hnext
      cases ps with
      | cons q qs => simp [feasible, takes_of_stopped hnext] at hf
      | nil =>
        have hg : gather c g p = g := by rcases hret with rfl | rfl <;> rfl
        refine ⟨[], by simp [run, hstep], ?_⟩
        simpa [run, hstep, hg] using h.returned

/-! ## A quiet period -/

/-- Touches taken while the loop gathers join its pending files, each once in the order first
touched, and arm the timer when one counts. -/
theorem run_events (es : List Files.Event) (pending : List String) (armed : Bool) :
    Loop.run c ⟨pending, armed, none, false, false⟩ (es.map .event) =
      (⟨(es.filterMap c.relevant).foldl (fun acc p => if acc.contains p then acc else acc ++ [p])
          pending, armed || !(es.filterMap c.relevant).isEmpty, none, false, false⟩, []) := by
  induction es generalizing pending armed with
  | nil => simp [Loop.run]
  | cons e es ih =>
    cases hr : c.relevant e with
    | none =>
      rw [List.map_cons, Loop.run, step_irrelevant hr]
      simpa [hr] using ih pending armed
    | some name =>
      have hstep : Loop.step c ⟨pending, armed, none, false, false⟩ (.event e) =
          (⟨if pending.contains name then pending else pending ++ [name], true, none, false, false⟩,
            []) := by
        simp [Loop.step, takes, hr]
      rw [List.map_cons, Loop.run, hstep]
      simp [ih, hr]

theorem foldl_insert_eq_nil {l acc : List String} :
    l.foldl (fun acc p => if acc.contains p then acc else acc ++ [p]) acc = [] ↔
      acc = [] ∧ l = [] := by
  induction l generalizing acc with
  | nil => simp
  | cons x l ih =>
    rw [List.foldl_cons, ih]
    by_cases hx : acc.contains x = true
    · simp only [hx, if_true]
      constructor
      · rintro ⟨rfl, -⟩
        simp at hx
      · rintro ⟨-, h⟩
        cases h
    · have hx' : x ∉ acc := by simpa using hx
      simp [hx']

/-- **A quiet period through the loop makes the change of its events**: taking a period's
events from a loop at rest, then the timer and the receiver, puts on the channel the change
`Watch.change` computes, if any, and leaves the loop at rest. -/
theorem run_quiet_period (es : List Files.Event) :
    Loop.idle.run c (es.map .event ++ [.fire, .deliver]) =
      (Loop.idle, ((change c es).map Note.change).toList) := by
  have hevents := run_events (c := c) es [] false
  rw [run_append, show Loop.idle = ⟨[], false, none, false, false⟩ from rfl, hevents]
  -- what the period gathered: the change's files, the timer armed exactly when there are some
  have htouched : (es.filterMap fun e => if c.counts e then c.seen e else none) =
      es.filterMap c.relevant := rfl
  by_cases hnil : es.filterMap c.relevant = []
  · simp [hnil, Loop.run, Loop.step, takes, change, htouched]
  · have hne : (es.filterMap c.relevant).foldl
        (fun acc p => if acc.contains p then acc else acc ++ [p]) [] ≠ [] := fun h =>
      hnil (foldl_insert_eq_nil.1 h).2
    simp only [List.contains_iff_mem] at hne
    simp [hnil, hne, Loop.run, Loop.step, takes, change, htouched]

end Loop

/-- **The watcher's loop reports each touch once.** Over every schedule whose picks can happen
in turn, the loop puts on its channel changes, then the close exactly when it has returned. The
changes, followed by the one it is sending or, once it has returned, the one it dropped, report
one for one the stretches the timer's firings close: each lists exactly the names its stretch
touched, each once, in increasing order, and is not empty. The files pending are the names
touched since the last firing. Once the loop has returned nothing more is put on the channel,
and a touch that does not count leaves the loop as it was. -/
theorem loop_reports_each_touch_once (c : Config) (ps : List Pick)
    (hf : Loop.idle.feasible c ps = true) :
    (∃ changes, (Loop.idle.run c ps).2 =
        changes ++ (if (Loop.idle.run c ps).1.stopped then [.close] else []) ∧
      List.Forall₂ Reports (changes ++ ((Loop.idle.run c ps).1.sending.map Note.change).toList)
        (gathered c ps).1) ∧
      (∀ n, n ∈ (Loop.idle.run c ps).1.pending ↔ n ∈ (gathered c ps).2) ∧
      ((Loop.idle.run c ps).1.stopped = true →
        ∀ qs, (Loop.idle.run c ps).1.run c qs = ((Loop.idle.run c ps).1, [])) ∧
      ∀ (s : Loop) (e : Files.Event), c.relevant e = none → s.step c (.event e) = (s, []) := by
  obtain ⟨changes, hnotes, hacc⟩ := (Loop.Accounts.idle c).run rfl hf
  exact ⟨⟨changes, hnotes, by simpa [gathered] using hacc.reported⟩,
    by simpa [gathered] using hacc.pending, fun hs qs => Loop.run_of_stopped hs qs,
    fun s e h => Loop.step_irrelevant h s⟩

/-- Two windows end while the receiver takes only the first change; the watcher is then stopped
and the loop takes the signal while it is sending the second: the channel gets one change, then
the close, and that change and the one dropped report the two windows. -/
theorem stop_while_sending_drops_change :
    ∃ changes dropped,
      (Loop.idle.run ⟨["t"], [], [], 30000000⟩
        [.event ⟨"t/b.json", .write⟩, .event ⟨"t/a.json", .create⟩, .event ⟨"t/notes.txt", .write⟩,
          .fire, .deliver, .event ⟨"t/a.json", .remove⟩, .fire, .stop, .quit]).2 =
        changes ++ [.close] ∧
      (Loop.idle.run ⟨["t"], [], [], 30000000⟩
        [.event ⟨"t/b.json", .write⟩, .event ⟨"t/a.json", .create⟩, .event ⟨"t/notes.txt", .write⟩,
          .fire, .deliver, .event ⟨"t/a.json", .remove⟩, .fire, .stop, .quit]).1.sending =
        some dropped ∧
      List.Forall₂ Reports (changes ++ [.change dropped]) [["t/b.json", "t/a.json"], ["t/a.json"]] := by
  have hf : Loop.idle.feasible ⟨["t"], [], [], 30000000⟩
      [.event ⟨"t/b.json", .write⟩, .event ⟨"t/a.json", .create⟩, .event ⟨"t/notes.txt", .write⟩,
        .fire, .deliver, .event ⟨"t/a.json", .remove⟩, .fire, .stop, .quit] = true := by
    decide +kernel
  obtain ⟨⟨changes, hnotes, hrep⟩, -⟩ := loop_reports_each_touch_once _ _ hf
  -- the loop has returned, with a change still to send
  have hstopped : (Loop.idle.run ⟨["t"], [], [], 30000000⟩
      [.event ⟨"t/b.json", .write⟩, .event ⟨"t/a.json", .create⟩, .event ⟨"t/notes.txt", .write⟩,
        .fire, .deliver, .event ⟨"t/a.json", .remove⟩, .fire, .stop, .quit]).1.stopped = true := by
    decide +kernel
  have hsending : (Loop.idle.run ⟨["t"], [], [], 30000000⟩
      [.event ⟨"t/b.json", .write⟩, .event ⟨"t/a.json", .create⟩, .event ⟨"t/notes.txt", .write⟩,
        .fire, .deliver, .event ⟨"t/a.json", .remove⟩, .fire, .stop, .quit]).1.sending.isSome =
      true := by
    decide +kernel
  have hgathered : (gathered ⟨["t"], [], [], 30000000⟩
      [.event ⟨"t/b.json", .write⟩, .event ⟨"t/a.json", .create⟩, .event ⟨"t/notes.txt", .write⟩,
        .fire, .deliver, .event ⟨"t/a.json", .remove⟩, .fire, .stop, .quit]).1 =
      [["t/b.json", "t/a.json"], ["t/a.json"]] := by
    decide +kernel
  obtain ⟨dropped, hdropped⟩ := Option.isSome_iff_exists.1 hsending
  rw [hstopped, if_pos rfl] at hnotes
  rw [hdropped, hgathered] at hrep
  exact ⟨changes, dropped, hnotes, hdropped, hrep⟩

/-- **Stopping the watcher does not end the loop at once.** Stopped while its timer is armed, the
loop is still running with nothing on its channel; it can then take the timer before the stop
signal and put one more change on its channel before it closes it. -/
theorem change_sent_after_stop :
    Loop.idle.run ⟨["t"], [], [], 30000000⟩ [.event ⟨"t/a.json", .write⟩, .stop] =
        (⟨["t/a.json"], true, none, true, false⟩, []) ∧
      Loop.idle.feasible ⟨["t"], [], [], 30000000⟩
        [.event ⟨"t/a.json", .write⟩, .stop, .fire, .deliver, .quit] = true ∧
      ((Loop.idle.run ⟨["t"], [], [], 30000000⟩
        [.event ⟨"t/a.json", .write⟩, .stop, .fire, .deliver, .quit]).2.map
          fun n => n.files?.isSome) = [true, false] := by
  decide +kernel

end ConfigTables.Watch
