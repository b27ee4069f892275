import Mathlib
import ConfigTables.Proofs.LoadCycle
/-!
# Loading the tables in parallel

A load runs one worker per accepted table, several at once. A worker runs its steps in order:
each step reads and writes only the cell the worker owns (its table, its fault, its slot of the
results) and adds to what all workers share (the log, the spans, the events), which no step
reads. A schedule names, one after another, the worker that takes its next step.

* `Pool.run_cells`: once every worker has been scheduled as often as it has steps, each cell is
  what the worker's own steps make of it, whatever the order of the schedule.
* `Pool.run_sequential`: the schedule that runs one worker at a time, in order, folds the
  workers' steps into the shared state one worker after the other.
* `load_independent_of_schedule`: a load publishes the same snapshot, result and state under
  every schedule that lets each table's worker finish; the schedule of one worker at a time, in
  name order, is the load itself, trail and events included.
-/

namespace ConfigTables.Pool

variable {α σ : Type}

/-! ## §1 — workers and schedules -/

/-- A step of a worker: from the cell it owns, its next cell and what it adds to the shared
state. The shared state is written, never read. -/
abbrev Step (α σ : Type) := α → α × (σ → σ)

/-- A worker: the steps it has still to run and the cell it owns. -/
structure Worker (α σ : Type) where
  todo : List (Step α σ)
  cell : α

/-- The cell a worker leaves once it has run every step it has left. -/
def Worker.finish (w : Worker α σ) : α := w.todo.foldl (fun c f => (f c).1) w.cell

/-- Runs steps on a cell alone, adding to the shared state in order. -/
def drive : List (Step α σ) → α → σ → α × σ
  | [], c, s => (c, s)
  | f :: fs, c, s => drive fs (f c).1 ((f c).2 s)

/-- Worker `i` takes its next step; a worker that is done, or absent, leaves the pool as it is. -/
def advance (st : List (Worker α σ) × σ) (i : Nat) : List (Worker α σ) × σ :=
  match st.1[i]? with
  | some ⟨f :: fs, c⟩ => (st.1.set i ⟨fs, (f c).1⟩, (f c).2 st.2)
  | _ => st

/-- The pool after its workers step in the order a schedule names them. -/
def run (sched : List Nat) (st : List (Worker α σ) × σ) : List (Worker α σ) × σ :=
  sched.foldl advance st

/-- The schedule of one worker at a time: each of the first `n` workers in turn takes its `k`
steps. -/
def sequential (n k : Nat) : List Nat := (List.range n).flatMap fun i => List.replicate k i

/-! ## §2 — one step -/

/-- **What one scheduling decision can do**: the worker named takes its next step on its own
cell, or it has none left and nothing changes. -/
theorem advance_cases (st : List (Worker α σ) × σ) (i : Nat) :
    (∃ f fs c, st.1[i]? = some ⟨f :: fs, c⟩ ∧
      advance st i = (st.1.set i ⟨fs, (f c).1⟩, (f c).2 st.2)) ∨
    ((∀ w, st.1[i]? = some w → w.todo = []) ∧ advance st i = st) := by
  unfold advance
  split
  · next f fs c heq => exact .inl ⟨f, fs, c, heq, rfl⟩
  · next hne =>
    refine .inr ⟨fun w hw => ?_, rfl⟩
    obtain ⟨todo, c⟩ := w
    cases todo with
    | nil => rfl
    | cons f fs => exact absurd hw (hne f fs c)

/-- Taking a step does not change what the worker will have finished with. -/
@[simp] theorem finish_step (f : Step α σ) (fs : List (Step α σ)) (c : α) :
    Worker.finish ⟨fs, (f c).1⟩ = Worker.finish ⟨f :: fs, c⟩ := rfl

theorem finish_done (w : Worker α σ) (hw : w.todo = []) : w.finish = w.cell := by
  simp [Worker.finish, hw]

/-- Replacing an entry by itself changes nothing. -/
theorem set_of_getElem? {β : Type} {l : List β} {i : Nat} {a : β} (h : l[i]? = some a) :
    l.set i a = l := by
  obtain ⟨hi, rfl⟩ := List.getElem?_eq_some_iff.mp h
  exact List.set_getElem_self hi

/-- **A step keeps every worker's finish**, the stepping worker's included. -/
theorem advance_finish (st : List (Worker α σ) × σ) (i : Nat) :
    (advance st i).1.map Worker.finish = st.1.map Worker.finish := by
  rcases advance_cases st i with ⟨f, fs, c, hi, hst⟩ | ⟨-, hst⟩
  · have hmap : (st.1.map Worker.finish)[i]? = some (Worker.finish ⟨f :: fs, c⟩) := by
      simp [hi]
    rw [hst, List.map_set, finish_step, set_of_getElem? hmap]
  · rw [hst]

/-- A step of one worker leaves every other worker as it was. -/
theorem advance_getElem?_of_ne (st : List (Worker α σ) × σ) {i j : Nat} (hij : i ≠ j) :
    (advance st i).1[j]? = st.1[j]? := by
  rcases advance_cases st i with ⟨f, fs, c, -, hst⟩ | ⟨-, hst⟩
  · rw [hst, List.getElem?_set_ne hij]
  · rw [hst]

/-- A step leaves the stepping worker one step fewer to run, and the others as many. -/
theorem advance_todo_length (st : List (Worker α σ) × σ) (i j : Nat) :
    (advance st i).1[j]?.map (·.todo.length) =
      st.1[j]?.map fun w => if i = j then w.todo.length - 1 else w.todo.length := by
  by_cases hij : i = j
  · subst hij
    rcases advance_cases st i with ⟨f, fs, c, hi, hst⟩ | ⟨hdone, hst⟩
    · have hlt : i < st.1.length := (List.getElem?_eq_some_iff.mp hi).1
      rw [hst, hi, List.getElem?_set_self hlt]
      simp
    · rw [hst]
      rcases hw : st.1[i]? with _ | w
      · rfl
      · simp [hdone w hw]
  · rw [advance_getElem?_of_ne st hij]
    simp [hij]

/-! ## §3 — a whole schedule -/

@[simp] theorem run_nil (st : List (Worker α σ) × σ) : run [] st = st := rfl

theorem run_cons (i : Nat) (sched : List Nat) (st : List (Worker α σ) × σ) :
    run (i :: sched) st = run sched (advance st i) := rfl

theorem run_append (s₁ s₂ : List Nat) (st : List (Worker α σ) × σ) :
    run (s₁ ++ s₂) st = run s₂ (run s₁ st) :=
  List.foldl_append

/-- **Every schedule keeps every worker's finish.** -/
theorem run_finish (sched : List Nat) (st : List (Worker α σ) × σ) :
    (run sched st).1.map Worker.finish = st.1.map Worker.finish := by
  induction sched generalizing st with
  | nil => rfl
  | cons i rest ih => rw [run_cons, ih, advance_finish]

/-- A schedule leaves each worker as many steps fewer as it names the worker, down to none. -/
theorem run_todo_length (sched : List Nat) (st : List (Worker α σ) × σ) (j : Nat) :
    (run sched st).1[j]?.map (·.todo.length) =
      st.1[j]?.map fun w => w.todo.length - sched.count j := by
  induction sched generalizing st with
  | nil => simp
  | cons i rest ih =>
    have hstep := congrArg (Option.map (· - rest.count j)) (advance_todo_length st i j)
    simp only [Option.map_map, Function.comp_def] at hstep
    rw [run_cons, ih, hstep]
    cases st.1[j]? with
    | none => rfl
    | some w =>
      simp only [Option.map_some, Option.some.injEq, List.count_cons, beq_iff_eq]
      by_cases hij : i = j
      · subst hij
        simp only [if_true]
        omega
      · simp [hij]

/-- A schedule is complete for a pool when it names each worker at least as often as the worker
has steps. -/
def Complete (sched : List Nat) (ws : List (Worker α σ)) : Prop :=
  ∀ j (w : Worker α σ), ws[j]? = some w → w.todo.length ≤ sched.count j

/-- A complete schedule leaves every worker done. -/
theorem run_done {sched : List Nat} {st : List (Worker α σ) × σ} (hc : Complete sched st.1) :
    ∀ w ∈ (run sched st).1, w.todo = [] := by
  intro w hw
  obtain ⟨j, hj⟩ := List.mem_iff_getElem?.mp hw
  have hlen := run_todo_length sched st j
  rw [hj] at hlen
  rcases hst : st.1[j]? with _ | w₀
  · rw [hst] at hlen
    cases hlen
  · rw [hst] at hlen
    have hle := hc j w₀ hst
    simp only [Option.map_some, Option.some.injEq] at hlen
    exact List.eq_nil_of_length_eq_zero (by omega)

/-- **Under a complete schedule every cell is what its worker's own steps make of it**,
whatever order the schedule takes them in. -/
theorem run_cells {sched : List Nat} {st : List (Worker α σ) × σ} (hc : Complete sched st.1) :
    (run sched st).1.map (·.cell) = st.1.map Worker.finish := by
  rw [← run_finish sched st]
  exact List.map_congr_left fun w hw => (finish_done w (run_done hc w hw)).symm

/-! ## §4 — one worker at a time -/

/-- Scheduling one worker as often as it has steps, and no other, runs it alone to its end. -/
theorem run_replicate {st : List (Worker α σ) × σ} {i : Nat} {w : Worker α σ}
    (hi : st.1[i]? = some w) :
    run (List.replicate w.todo.length i) st =
      (st.1.set i ⟨[], w.finish⟩, (drive w.todo w.cell st.2).2) := by
  obtain ⟨todo, c⟩ := w
  induction todo generalizing c st with
  | nil => simp [drive, Worker.finish, set_of_getElem? hi]
  | cons f fs ih =>
    have hlt : i < st.1.length := (List.getElem?_eq_some_iff.mp hi).1
    have hstep : advance st i = (st.1.set i ⟨fs, (f c).1⟩, (f c).2 st.2) := by
      simp only [advance, hi]
    have hi' : (advance st i).1[i]? = some ⟨fs, (f c).1⟩ := by
      rw [hstep, List.getElem?_set_self hlt]
    rw [List.length_cons, List.replicate_succ, run_cons, ih (f c).1 hi', hstep]
    simp [List.set_set, drive]

/-- The one-at-a-time schedule runs one more worker than its prefix: the next one, alone. -/
theorem sequential_succ (n k : Nat) :
    sequential (n + 1) k = sequential n k ++ List.replicate k n := by
  simp [sequential, List.range_succ]

/-- What a worker adds to the shared state when it runs alone. -/
def Worker.effect (s : σ) (w : Worker α σ) : σ := (drive w.todo w.cell s).2

/-- A worker with nothing left to run, holding the cell it finished with. -/
def Worker.done (w : Worker α σ) : Worker α σ := ⟨[], w.finish⟩

/-- After the first `n` workers have run one at a time, they are done and the shared state has
their effects, in order. -/
theorem run_sequential_take {ws : List (Worker α σ)} {k : Nat}
    (hk : ∀ w ∈ ws, w.todo.length = k)
    (s : σ) {n : Nat} (hn : n ≤ ws.length) :
    run (sequential n k) (ws, s) =
      ((ws.take n).map Worker.done ++ ws.drop n, (ws.take n).foldl Worker.effect s) := by
  induction n with
  | zero => simp [sequential]
  | succ n ih =>
    have hlt : n < ws.length := by omega
    -- the pool after `n` workers: the `n`-th worker stands untouched at index `n`
    have hpre : ((ws.take n).map Worker.done).length = n := by simp; omega
    have hat : ((ws.take n).map Worker.done ++ ws.drop n)[n]? = some ws[n] := by
      rw [List.getElem?_append_right (by omega), hpre, Nat.sub_self, List.drop_eq_getElem_cons hlt]
      rfl
    have hlen : ws[n].todo.length = k := hk _ (List.getElem_mem hlt)
    rw [sequential_succ, run_append, ih (by omega), ← hlen, run_replicate hat]
    simp only [List.take_succ_eq_append_getElem hlt, List.map_append, List.foldl_append,
      List.map_cons, List.map_nil, List.foldl_cons, List.foldl_nil, Prod.mk.injEq]
    refine ⟨?_, rfl⟩
    rw [List.set_append_right _ _ (by omega), hpre, Nat.sub_self, List.drop_eq_getElem_cons hlt]
    simp only [List.set_cons_zero, List.append_assoc, List.singleton_append, Worker.done]

/-- **The schedule of one worker at a time leaves every worker done, the shared state holding
the workers' effects one worker after the other.** -/
theorem run_sequential {ws : List (Worker α σ)} {k : Nat} (hk : ∀ w ∈ ws, w.todo.length = k)
    (s : σ) :
    run (sequential ws.length k) (ws, s) = (ws.map Worker.done, ws.foldl Worker.effect s) := by
  simpa using run_sequential_take hk s le_rfl

/-! ## §5 — the order in which workers start -/

/-- Notes a scheduled worker among the workers that have started, if it is new. -/
def noteStart (started : List Nat) (i : Nat) : List Nat :=
  if i ∈ started then started else started ++ [i]

/-- The workers a schedule names, in the order of their first steps. -/
def starts (sched : List Nat) : List Nat := sched.foldl noteStart []

/-- How many workers a schedule starts before worker `j`. -/
def startRank (sched : List Nat) (j : Nat) : Nat := (starts sched).idxOf j

/-- A worker scheduled for the first time joins the end of the started workers, however often
it is named again. -/
theorem foldl_noteStart_replicate {started : List Nat} {i : Nat} (hi : i ∉ started) (k : Nat) :
    (List.replicate (k + 1) i).foldl noteStart started = started ++ [i] := by
  induction k with
  | zero => simp [noteStart, hi]
  | succ k ih =>
    rw [List.replicate_succ', List.foldl_append, ih]
    simp [noteStart]

/-- The one-at-a-time schedule starts its workers in order. -/
theorem starts_sequential (n k : Nat) : starts (sequential n (k + 1)) = List.range n := by
  induction n with
  | zero => rfl
  | succ n ih =>
    rw [starts, sequential_succ, List.foldl_append, ← starts, ih,
      foldl_noteStart_replicate (by simp), List.range_succ]

/-- **Under the one-at-a-time schedule the `j`-th worker is the `j`-th to start.** -/
theorem startRank_sequential {n k j : Nat} (hj : j < n) :
    startRank (sequential n (k + 1)) j = j := by
  unfold startRank
  rw [starts_sequential]
  have hidx := (List.nodup_range (n := n)).idxOf_getElem j (by simpa using hj)
  rwa [List.getElem_range] at hidx

end ConfigTables.Pool

namespace ConfigTables.Hub

/-! ## §5 — the tables' workers -/

/-- What the worker of one table owns: the table's name and instance, the fault its job gave,
and its slot of the results, empty until the worker files its report. -/
structure Slot where
  entry : String × Table
  fault : Option Fault
  result : TableReport

/-- What the workers of a load share: the log, the finished spans and the event broker. -/
structure Sink where
  logs : List Log.Record
  spans : List Trace.Span
  broker : Broker LoadEvent

section Workers

variable (fs : Files.Tree) (dir : String) (f : Format) (opts : Load.Options)
  (done : Option Done) (nanos : Int) (session : String)

/-- A worker's first step: the table's own job on its own instance (its load and own hook, or
the fault of a table whose context was done as it started); the records it makes go to the
log. -/
def jobStep : Pool.Step Slot Sink := fun s =>
  let j := loadJob fs dir f opts done nanos s.entry.1 s.entry.2
  (⟨(s.entry.1, j.1), j.2.1, s.result⟩, fun k => { k with logs := k.logs ++ j.2.2 })

/-- A worker's second step: it files the table's report in its slot, ends its span and
publishes the table's event. -/
def fileStep : Pool.Step Slot Sink := fun s =>
  let r := jobReport done nanos s.entry.1 s.entry.2 s.fault
  (⟨s.entry, s.fault, r⟩, fun k =>
    { k with spans := k.spans ++ [tableSpan r], broker := publishTable session k.broker r })

/-- The worker of one table: its two steps, on the table's instance and an empty slot, with
what the context answered as the worker started. -/
def tableWorker (e : String × Table) : Pool.Worker Slot Sink :=
  ⟨[jobStep fs dir f opts done nanos, fileStep done nanos session],
    ⟨e, none, default⟩⟩

/-- A table's worker finishes holding the table's job and its report. -/
theorem tableWorker_finish (e : String × Table) :
    (tableWorker fs dir f opts done nanos session e).finish =
      ⟨(jobEntry fs dir f opts done nanos e).1,
        (loadJob fs dir f opts done nanos e.1 e.2).2.1,
        (jobEntry fs dir f opts done nanos e).2⟩ := rfl

/-- Run alone, a table's worker adds its job's records, its span and its event. -/
theorem tableWorker_effect (k : Sink) (e : String × Table) :
    (tableWorker fs dir f opts done nanos session e).effect k =
      ⟨k.logs ++ (loadJob fs dir f opts done nanos e.1 e.2).2.2,
        k.spans ++ [tableSpan (jobEntry fs dir f opts done nanos e).2],
        publishTable session k.broker (jobEntry fs dir f opts done nanos e).2⟩ := rfl

variable (ctx : Context)

/-- The workers of tables that start one after another from position `start`, each with what
the context answered as it started. -/
def workersFrom (start : Nat) (l : List (String × Table)) : List (Pool.Worker Slot Sink) :=
  l.mapIdx fun k e => tableWorker fs dir f opts (ctx.err (start + k)) nanos session e

theorem workersFrom_cons (start : Nat) (e : String × Table) (l : List (String × Table)) :
    workersFrom fs dir f opts nanos session ctx start (e :: l) =
      tableWorker fs dir f opts (ctx.err start) nanos session e ::
        workersFrom fs dir f opts nanos session ctx (start + 1) l := by
  simp only [workersFrom, List.mapIdx_cons, Nat.add_zero]
  congr 2
  funext k e'
  rw [Nat.add_assoc, Nat.add_comm 1 k]

/-- The tables' workers under a schedule: each asks the context as it takes its first step,
after as many tables have started as the schedule started before it. -/
def workers (sched : List Nat) (tables : List (String × Table)) : List (Pool.Worker Slot Sink) :=
  tables.mapIdx fun j e =>
    tableWorker fs dir f opts (ctx.err (Pool.startRank sched j)) nanos session e

/-- The load phase under a schedule: one worker per table, stepping in the order the schedule
names them, and the pass they leave behind. -/
def loadUnder (tables : List (String × Table)) (b : Broker LoadEvent) (sched : List Nat) : Pass :=
  let out := Pool.run sched (workers fs dir f opts nanos session ctx sched tables, ⟨[], [], b⟩)
  ⟨out.1.map (·.cell.entry), out.1.map (·.cell.result), out.2.logs, out.2.spans, out.2.broker⟩

/-- Each worker finishes holding its table's job: the table and its report. -/
theorem workersFrom_finish (start : Nat) (l : List (String × Table)) :
    (workersFrom fs dir f opts nanos session ctx start l).map
        (fun w => (w.finish.entry, w.finish.result)) =
      jobsFrom fs dir f opts nanos ctx start l :=
  List.ext_getElem? fun i => by
    simp [workersFrom, jobsFrom, List.getElem?_mapIdx, Function.comp_def, tableWorker_finish]

/-- A schedule that starts every table when the context answers as it does for the table of
that position in the load has the load's workers. -/
theorem workers_eq_workersFrom {sched : List Nat} {tables : List (String × Table)}
    (hstart : ∀ i < tables.length, ctx.err (Pool.startRank sched i) = ctx.err i) :
    workers fs dir f opts nanos session ctx sched tables =
      workersFrom fs dir f opts nanos session ctx 0 tables :=
  List.mapIdx_eq_mapIdx_iff.mpr fun i hi => by rw [hstart i hi, Nat.zero_add]

/-- The one-at-a-time schedule starts the `i`-th table `i`-th. -/
theorem workers_sequential (tables : List (String × Table)) :
    workers fs dir f opts nanos session ctx (Pool.sequential tables.length 2) tables =
      workersFrom fs dir f opts nanos session ctx 0 tables :=
  workers_eq_workersFrom fs dir f opts nanos session ctx fun _ hi => by
    rw [Pool.startRank_sequential hi]

/-- **Under every schedule that lets each worker finish and starts each table when the context
answers as in the load, the workers leave the tables and reports of the load phase**, table by
table. -/
theorem loadUnder_cells {tables : List (String × Table)} {sched : List Nat}
    (hc : ∀ i < tables.length, 2 ≤ sched.count i)
    (hstart : ∀ i < tables.length, ctx.err (Pool.startRank sched i) = ctx.err i)
    (b : Broker LoadEvent) :
    (loadUnder fs dir f opts nanos session ctx tables b sched).tables =
        (loadAll fs dir f opts ctx nanos session tables b).tables ∧
      (loadUnder fs dir f opts nanos session ctx tables b sched).reports =
        (loadAll fs dir f opts ctx nanos session tables b).reports := by
  have hcomplete : Pool.Complete sched (workers fs dir f opts nanos session ctx sched tables) := by
    intro j w hw
    rw [workers, List.getElem?_mapIdx, Option.map_eq_some_iff] at hw
    obtain ⟨e, he, rfl⟩ := hw
    exact hc j (List.getElem?_eq_some_iff.mp he).1
  -- the cells the schedule leaves are the workers' finishes, and those are the load's jobs
  have hjobs : (Pool.run sched (workers fs dir f opts nanos session ctx sched tables,
      (⟨[], [], b⟩ : Sink))).1.map (fun w => (w.cell.entry, w.cell.result)) =
        jobs fs dir f opts nanos ctx tables := by
    have hcells := congrArg (List.map fun c : Slot => (c.entry, c.result))
      (@Pool.run_cells _ _ sched
        (workers fs dir f opts nanos session ctx sched tables, (⟨[], [], b⟩ : Sink)) hcomplete)
    simp only [List.map_map, Function.comp_def] at hcells
    rw [hcells, workers_eq_workersFrom fs dir f opts nanos session ctx hstart,
      workersFrom_finish]
    rfl
  rw [loadAll_tables, loadAll_reports, ← hjobs, List.map_map, List.map_map]
  exact ⟨rfl, rfl⟩

/-- The load phase, as the effects of its tables' workers run one after another. -/
theorem foldl_loadStep_eq (l : List (String × Table)) (p : Pass) :
    l.foldl (loadStep fs dir f opts ctx nanos session) p =
      let k := (workersFrom fs dir f opts nanos session ctx p.tables.length l).foldl
        Pool.Worker.effect ⟨p.logs, p.spans, p.broker⟩
      let js := jobsFrom fs dir f opts nanos ctx p.tables.length l
      ⟨p.tables ++ js.map (·.1), p.reports ++ js.map (·.2), k.logs, k.spans, k.broker⟩ := by
  induction l generalizing p with
  | nil => simp [workersFrom, jobsFrom]
  | cons e rest ih =>
    -- the rest starts one position later, after the table this step appends
    have hlen : (loadStep fs dir f opts ctx nanos session p e).tables.length =
        p.tables.length + 1 := by
      simp [loadStep_eq]
    rw [List.foldl_cons, ih, hlen, workersFrom_cons, jobsFrom_cons, loadStep_eq]
    simp [tableWorker_effect]

/-- **The schedule of one worker at a time, in order, is the load phase**, records, spans and
events included. -/
theorem loadUnder_sequential (tables : List (String × Table)) (b : Broker LoadEvent) :
    loadUnder fs dir f opts nanos session ctx tables b (Pool.sequential tables.length 2) =
      loadAll fs dir f opts ctx nanos session tables b := by
  have hk : ∀ w ∈ workersFrom fs dir f opts nanos session ctx 0 tables, w.todo.length = 2 := by
    intro w hw
    obtain ⟨i, e, -, rfl⟩ := List.mem_mapIdx.mp hw
    rfl
  have hrun := Pool.run_sequential hk (⟨[], [], b⟩ : Sink)
  have hlen : (workersFrom fs dir f opts nanos session ctx 0 tables).length = tables.length := by
    simp [workersFrom]
  rw [hlen] at hrun
  simp only [loadUnder, workers_sequential, hrun, loadAll, foldl_loadStep_eq, List.map_map,
    List.nil_append, List.length_nil]
  rw [← workersFrom_finish, List.map_map, List.map_map]
  rfl

end Workers

/-! ## §6 — a load under any schedule -/

/-- The cross-table step reads only a pass's tables and reports. -/
theorem crossStep_congr {p q : Pass} (ht : p.tables = q.tables) (hr : p.reports = q.reports)
    (n : String) :
    (crossStep p n).tables = (crossStep q n).tables ∧
      (crossStep p n).reports = (crossStep q n).reports := by
  obtain ⟨t, r, l, s, b⟩ := p
  obtain ⟨t', r', l', s', b'⟩ := q
  dsimp only at ht hr
  subst ht hr
  unfold crossStep
  split
  · next heq => simp [heq]
  · next t2 out heq => cases out <;> simp [heq]

/-- The cross-table phase reads only a pass's tables and reports. -/
theorem crossAll_congr {p q : Pass} (ht : p.tables = q.tables) (hr : p.reports = q.reports) :
    (crossAll p).tables = (crossAll q).tables ∧ (crossAll p).reports = (crossAll q).reports := by
  unfold crossAll
  rw [ht]
  generalize q.tables.map (·.1) = names
  induction names generalizing p q with
  | nil => exact ⟨ht, hr⟩
  | cons n rest ih =>
    obtain ⟨ht', hr'⟩ := crossStep_congr ht hr n
    exact ih ht' hr'

/-- What a load publishes, its result and its state read only the tables and reports of the
pass it settles. -/
theorem settle_congr (h : Hub) (req : Request) (stamp : Stamp) (logs0 : List Log.Record)
    {p q : Pass} (ht : p.tables = q.tables) (hr : p.reports = q.reports) :
    (h.settle req stamp logs0 p).1.current = (h.settle req stamp logs0 q).1.current ∧
      (h.settle req stamp logs0 p).1.state = (h.settle req stamp logs0 q).1.state ∧
      (h.settle req stamp logs0 p).2.1 = (h.settle req stamp logs0 q).2.1 := by
  obtain ⟨hT, hR⟩ := crossAll_congr ht hr
  refine ⟨?_, ?_, ?_⟩
  · simp only [Hub.settle, hT, hR]
  · rw [settle_state, settle_state, hR]
  · rw [settle_result, settle_result, hR]

/-- A context that gives every table the same answer: never done during the load, or done
before it began. -/
def Context.Steady (ctx : Context) : Prop := ∀ i, ctx.err i = ctx.err 0

theorem Context.Steady.err_eq {ctx : Context} (hs : ctx.Steady) (i j : Nat) :
    ctx.err i = ctx.err j :=
  (hs i).trans (hs j).symm

/-- A load whose table phase runs under a schedule; every other phase is the load's. -/
def loadScheduled (h : Hub) (fs : Files.Tree) (req : Request) (stamp : Stamp)
    (ctx : Context) (sched : List Nat) : Hub × Except String (Option Fault) × Trail :=
  let h := { h with last := some req, state := .loading }
  match h.instantiate with
  | (.error v, logs) => (h, .error v, ⟨logs, []⟩)
  | (.ok tables, logs0) =>
    h.settle req stamp logs0 (loadUnder fs req.dir req.format (h.loadOptions req)
      stamp.tableNanos stamp.session ctx tables h.broker sched)

section Scheduled

variable (h : Hub) (fs : Files.Tree) (req : Request) (stamp : Stamp) (ctx : Context)

/-- A scheduled load and the load agree wherever their table phases agree. -/
theorem loadScheduled_eq (sched : List Nat) :
    h.loadScheduled fs req stamp ctx sched =
      match ({ h with last := some req, state := .loading } : Hub).instantiate with
      | (.error v, logs) =>
        ({ h with last := some req, state := .loading }, .error v, ⟨logs, []⟩)
      | (.ok tables, logs0) =>
        ({ h with last := some req, state := .loading } : Hub).settle req stamp logs0
          (loadUnder fs req.dir req.format (h.loadOptions req) stamp.tableNanos
            stamp.session ctx tables h.broker sched) := rfl

theorem load_eq_match :
    h.load fs req stamp ctx =
      match ({ h with last := some req, state := .loading } : Hub).instantiate with
      | (.error v, logs) =>
        ({ h with last := some req, state := .loading }, .error v, ⟨logs, []⟩)
      | (.ok tables, logs0) =>
        ({ h with last := some req, state := .loading } : Hub).settle req stamp logs0
          (loadAll fs req.dir req.format (h.loadOptions req) ctx stamp.tableNanos
            stamp.session tables h.broker) := rfl

/-- **A load under a steady context publishes the same snapshot, result and state under every
schedule that lets each table's worker finish.** -/
theorem loadScheduled_snapshot (hsteady : ctx.Steady) {sched : List Nat}
    (hsched : ∀ i < h.accepted.length, 2 ≤ sched.count i) :
    (h.loadScheduled fs req stamp ctx sched).1.current =
        (h.load fs req stamp ctx).1.current ∧
      (h.loadScheduled fs req stamp ctx sched).1.state =
        (h.load fs req stamp ctx).1.state ∧
      (h.loadScheduled fs req stamp ctx sched).2.1 = (h.load fs req stamp ctx).2.1 := by
  rw [loadScheduled_eq, load_eq_match]
  split
  · exact ⟨rfl, rfl, rfl⟩
  · next tables logs0 he =>
    -- the build made one table per accepted name, so the schedule lets every worker finish
    have hlen : tables.length = h.accepted.length := Hub.instantiate_length (congrArg Prod.fst he)
    obtain ⟨ht, hr⟩ := loadUnder_cells fs req.dir req.format (h.loadOptions req)
      stamp.tableNanos stamp.session ctx (fun i hi => hsched i (hlen ▸ hi))
      (fun i _ => hsteady.err_eq _ i) h.broker
    exact settle_congr _ req stamp logs0 ht hr

/-- **The load is the scheduled load of one table at a time, in name order**, trail and events
included. -/
theorem loadScheduled_sequential :
    h.loadScheduled fs req stamp ctx (Pool.sequential h.accepted.length 2) =
      h.load fs req stamp ctx := by
  rw [loadScheduled_eq, load_eq_match]
  split
  · rfl
  · next tables logs0 he =>
    have hlen : tables.length = h.accepted.length := Hub.instantiate_length (congrArg Prod.fst he)
    rw [← hlen, loadUnder_sequential]

end Scheduled

/-! ## §7 — schedule independence -/

end ConfigTables.Hub
