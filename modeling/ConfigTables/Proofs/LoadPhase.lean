import Mathlib
import ConfigTables.Hub.Core
/-!
# The load phase of a hub, table by table

A load first builds its tables and then runs each one's own job: its load and, after a
successful load, its own hook. This module states that phase exactly, so that the theorems
about a whole load can be read off it.

* `Registry.Ordered`: a registry's names are strictly ascending. The empty registry has it and
  `register` and `registerBuiltins` keep it, so every registry a program builds has it; a load
  therefore handles each name once, in name order.
* `Hub.fresh` and `instantiate_eq_fresh`: when every accepted constructor gives a table, a load
  builds a fresh table of each accepted constructor under its registry name, and constructs
  nothing for a rejected name.
* `loadJob_fault_eq_none`: a table's job ends without a fault exactly when the context was not
  done as the table started, its own load was done and its own hook, if it has one, was done
  too.
* `Table.load_of_decodes`: a table that reads its file takes the payload read only when the read
  filled it; whatever a failed read had already merged is dropped.
* `loadAll_tables`, `loadAll_reports`: the pass after the load phase lists every table's job in
  order (`jobs`), each from the table alone and what the context answered as it started.
-/

namespace ConfigTables.Load

/-- The payload a load step filled, if it filled one. -/
def Step.payload? : Step → Option Payload
  | .filled p => some p
  | _ => none

end ConfigTables.Load

namespace ConfigTables.Hub

/-! ## §1 — the registry keeps its names strictly ascending -/

/-- A registry's names are strictly ascending: each name once, in the order loads use. -/
def Registry.Ordered (r : Registry) : Prop := (r.entries.map (·.1)).Pairwise (· < ·)

theorem Registry.ordered_empty : Registry.empty.Ordered := List.Pairwise.nil

/-- Inserting a name adds that name and keeps the others. -/
theorem Registry.key_of_mem_insert {k x : String} {m : Maker} {l : List (String × Maker)}
    (hx : x ∈ (insert k m l).map (·.1)) : x = k ∨ x ∈ l.map (·.1) := by
  induction l with
  | nil => simpa [insert] using hx
  | cons e rest ih =>
    obtain ⟨k', m'⟩ := e
    simp only [insert] at hx
    split_ifs at hx with heq hlt
    · subst heq
      simp only [List.map_cons, List.mem_cons] at hx ⊢
      tauto
    · simp only [List.map_cons, List.mem_cons] at hx ⊢
      tauto
    · simp only [List.map_cons, List.mem_cons] at hx ⊢
      rcases hx with hx | hx
      · exact .inr (.inl hx)
      · rcases ih hx with h | h
        · exact .inl h
        · exact .inr (.inr h)

/-- **Insertion keeps the names strictly ascending.** -/
theorem Registry.ordered_insert (k : String) (m : Maker) {l : List (String × Maker)}
    (hl : (l.map (·.1)).Pairwise (· < ·)) : ((insert k m l).map (·.1)).Pairwise (· < ·) := by
  induction l with
  | nil => simp [insert]
  | cons e rest ih =>
    obtain ⟨k', m'⟩ := e
    have hcons := List.pairwise_cons.mp hl
    simp only [insert]
    split_ifs with heq hlt
    · subst heq
      exact hl
    · refine List.pairwise_cons.mpr ⟨?_, hl⟩
      intro y hy
      rcases List.mem_cons.mp hy with rfl | hy
      · exact hlt
      · exact lt_trans hlt (hcons.1 y hy)
    · -- the new name sorts after `k'`, and the rest stays ascending with it
      have hgt : k' < k := lt_of_le_of_ne (not_lt.mp hlt) (Ne.symm heq)
      refine List.pairwise_cons.mpr ⟨?_, ih hcons.2⟩
      intro y hy
      rcases key_of_mem_insert hy with rfl | hy
      · exact hgt
      · exact hcons.1 y hy

/-- A registration that succeeds keeps the registry ordered. -/
theorem Registry.ordered_register {r r' : Registry} {name : String} {m : Option Maker}
    (hr : r.Ordered) (h : (r.register name m).1 = .ok r') : r'.Ordered := by
  rcases m with _ | m
  · simp [register] at h
  · by_cases hn : name = ""
    · simp [register, hn] at h
    · simp only [register, hn, if_false, Except.ok.injEq] at h
      subst h
      exact ordered_insert _ _ hr

/-- Registering the built-in tables keeps the registry ordered. -/
theorem Registry.ordered_registerBuiltins {r : Registry} (hr : r.Ordered) :
    r.registerBuiltins.1.Ordered := by
  -- the fold keeps the registry of its accumulator ordered, one registration at a time
  have fold : ∀ g : Registry × List Log.Record → TableType → Registry × List Log.Record,
      (∀ acc t, acc.1.Ordered → (g acc t).1.Ordered) →
      ∀ (ts : List TableType) (acc : Registry × List Log.Record), acc.1.Ordered →
        (ts.foldl g acc).1.Ordered := by
    intro g hg ts
    induction ts with
    | nil => exact fun _ h => h
    | cons t rest ih => exact fun acc hacc => ih _ (hg acc t hacc)
  unfold registerBuiltins
  refine fold _ (fun acc t hacc => ?_) _ _ hr
  split
  · next r' logs hreg => exact ordered_register hacc (by rw [hreg])
  · exact hacc

/-! ## §2 — the tables a load builds -/

/-- The fresh table a constructor gives; none for a constructor that gives no table. -/
def Maker.fresh? : Maker → Option Table
  | .table k => some (Table.fresh k)
  | .absent => none

@[simp] theorem Maker.fresh?_table (k : Kind) : (Maker.table k).fresh? = some (Table.fresh k) := rfl

@[simp] theorem Maker.fresh?_absent : Maker.absent.fresh? = none := rfl

/-- Every constructor the hub's filter accepts gives a table. -/
def Builds (h : Hub) : Prop := ∀ e ∈ h.accepted, e.2 ≠ .absent

/-- The tables a load of the hub builds: a fresh table of each accepted constructor, under its
registry name, in name order. -/
def fresh (h : Hub) : List (String × Table) :=
  h.accepted.filterMap fun e => e.2.fresh?.map (e.1, ·)

/-- The accepted names of an ordered registry are strictly ascending. -/
theorem accepted_ordered {h : Hub} (hr : h.registry.Ordered) :
    (h.accepted.map (·.1)).Pairwise (· < ·) :=
  hr.sublist ((List.filter_sublist).map _)

/-- Building from entries that all give tables appends their fresh tables. -/
theorem foldl_buildStep {l : List (String × Maker)} (hl : ∀ e ∈ l, e.2 ≠ .absent)
    (ts : List (String × Table)) (logs : List Log.Record) :
    (l.foldl buildStep (.ok ts, logs)).1 =
      .ok (ts ++ l.filterMap fun e => e.2.fresh?.map (e.1, ·)) := by
  induction l generalizing ts logs with
  | nil => simp
  | cons e rest ih =>
    obtain ⟨name, m⟩ := e
    cases m with
    | absent => exact absurd rfl (hl _ List.mem_cons_self)
    | table k =>
      rw [List.foldl_cons]
      simp only [buildStep]
      rw [ih (fun e he => hl e (List.mem_cons_of_mem _ he))]
      simp

/-- **A load builds exactly the fresh tables of the accepted constructors**, and calls no
constructor of a rejected name. -/
theorem instantiate_eq_fresh {h : Hub} (hb : h.Builds) : h.instantiate.1 = .ok h.fresh := by
  simpa [Hub.instantiate, Hub.fresh] using foldl_buildStep hb [] []

/-- A table a load builds is a fresh table of its accepted constructor's kind. -/
theorem mem_fresh {h : Hub} {e : String × Table} :
    e ∈ h.fresh ↔ ∃ k, (e.1, .table k) ∈ h.accepted ∧ e.2 = Table.fresh k := by
  obtain ⟨name, t⟩ := e
  simp only [Hub.fresh, List.mem_filterMap, Option.map_eq_some_iff]
  constructor
  · rintro ⟨⟨n, m⟩, hm, t', ht', he⟩
    cases m with
    | absent => simp at ht'
    | table k =>
      simp only [Maker.fresh?_table, Option.some.injEq] at ht'
      simp only [Prod.mk.injEq] at he
      obtain ⟨rfl, rfl⟩ := he
      exact ⟨k, hm, ht'.symm⟩
  · rintro ⟨k, hm, rfl⟩
    exact ⟨(name, .table k), hm, Table.fresh k, rfl, rfl⟩

/-- The tables a load builds carry the accepted names, in order. -/
theorem fresh_names {h : Hub} (hb : h.Builds) : h.fresh.map (·.1) = h.accepted.map (·.1) := by
  unfold Hub.fresh
  unfold Hub.Builds at hb
  generalize h.accepted = l at hb ⊢
  induction l with
  | nil => rfl
  | cons e rest ih =>
    obtain ⟨name, m⟩ := e
    cases m with
    | absent => exact absurd rfl (hb _ List.mem_cons_self)
    | table k =>
      have ih := ih (fun e he => hb e (List.mem_cons_of_mem _ he))
      simp [ih]

/-- Once building has failed it stays failed. -/
theorem foldl_buildStep_error (l : List (String × Maker)) (v : String) (logs : List Log.Record) :
    (l.foldl buildStep (.error v, logs)).1 = .error v := by
  induction l generalizing logs with
  | nil => rfl
  | cons e rest ih => exact ih _

/-- Building succeeds only when every constructor it meets gives a table. -/
theorem builds_of_foldl_buildStep {l : List (String × Maker)}
    {acc : Except String (List (String × Table)) × List Log.Record} {ts : List (String × Table)}
    (h : (l.foldl buildStep acc).1 = .ok ts) : ∀ e ∈ l, e.2 ≠ .absent := by
  induction l generalizing acc with
  | nil => simp
  | cons e rest ih =>
    rw [List.foldl_cons] at h
    intro x hx
    rcases List.mem_cons.mp hx with rfl | hx
    · intro habs
      obtain ⟨a, logs⟩ := acc
      obtain ⟨n, m⟩ := x
      subst habs
      -- a constructor that gives no table fails the build, which then stays failed
      have hstep : ∃ v, buildStep (a, logs) (n, .absent) = (.error v, logs) := by
        cases a with
        | error v => exact ⟨v, rfl⟩
        | ok ts => exact ⟨_, rfl⟩
      obtain ⟨v, hv⟩ := hstep
      rw [hv, foldl_buildStep_error] at h
      cases h
    · exact ih h x hx

/-- A build that succeeds built one table per accepted name. -/
theorem instantiate_length {h : Hub} {ts : List (String × Table)}
    (he : h.instantiate.1 = .ok ts) : ts.length = h.accepted.length := by
  have hb : h.Builds := builds_of_foldl_buildStep he
  rw [instantiate_eq_fresh hb] at he
  cases he
  simpa using congrArg List.length (Hub.fresh_names hb)

/-! ## §3 — one table's job -/

/-- Whether a step ended well. -/
def Outcome.isDone : Outcome → Bool
  | .done => true
  | _ => false

/-- Two tables hold the same load: the same kind, data and file, and the same mark of whether a
load succeeded. A table's hooks change only what they build from its data. -/
structure Table.SameLoad (t t' : Table) : Prop where
  kind : t'.kind = t.kind
  data : t'.data = t.data
  path : t'.path = t.path
  loaded : t'.loaded = t.loaded

theorem Table.SameLoad.refl (t : Table) : t.SameLoad t := ⟨rfl, rfl, rfl, rfl⟩

theorem Table.SameLoad.trans {t t' t'' : Table} (h : t.SameLoad t') (h' : t'.SameLoad t'') :
    t.SameLoad t'' :=
  ⟨h'.kind.trans h.kind, h'.data.trans h.data, h'.path.trans h.path, h'.loaded.trans h.loaded⟩

/-- A table's own hook rebuilds its indexes and keeps its load. -/
theorem Table.afterLoad_sameLoad {t t' : Table} {o : Outcome} (h : t.afterLoad = some (t', o)) :
    t.SameLoad t' := by
  unfold afterLoad at h
  split at h
  · simp at h
  · simp only [Option.some.injEq, Prod.mk.injEq] at h
    obtain ⟨rfl, -⟩ := h
    exact ⟨rfl, rfl, rfl, rfl⟩
  · simp only [Option.some.injEq, Prod.mk.injEq] at h
    obtain ⟨rfl, -⟩ := h
    exact SameLoad.refl t

/-- A table's cross-table hook builds from its siblings and keeps its load. -/
theorem Table.afterAll_sameLoad {t t' : Table} {v : View} {o : Outcome}
    (h : t.afterAll v = some (t', o)) : t.SameLoad t' := by
  unfold afterAll at h
  split at h
  · split at h <;>
    · simp only [Option.some.injEq, Prod.mk.injEq] at h
      obtain ⟨rfl, -⟩ := h
      exact ⟨rfl, rfl, rfl, rfl⟩
  · simp at h
  · simp only [Option.some.injEq, Prod.mk.injEq] at h
    obtain ⟨rfl, -⟩ := h
    exact SameLoad.refl t
  · simp only [Option.some.injEq, Prod.mk.injEq] at h
    obtain ⟨rfl, -⟩ := h
    exact ⟨rfl, rfl, rfl, rfl⟩

/-- Whether a table's load reads its file into a fresh payload. -/
def Kind.decodes : Kind → Bool
  | .builtin _ => true
  | .scripted s => match s.load with
    | .decode => true
    | .act _ => false

/-- Reading a table's file records the file, and takes the payload read only when the read
filled it: a read that failed or stopped drops whatever it had merged into its fresh payload. -/
theorem Table.decode_table (t : Table) (fs : Files.Tree) (dir : String) (f : Format)
    (o : Load.TableOptions) (nanos : Int) :
    let step := (Load.loadMessage fs t.kind.blank t.name dir f (some o)).step
    (t.decode fs dir f o nanos).1 =
      { t with path := Load.tablePath t.name dir f (some o), data := step.payload?.getD t.data,
               loaded := t.loaded || step.payload?.isSome } := by
  unfold decode
  dsimp only
  split
  · next p heq => simp [heq, Load.Step.payload?]
  · next p e heq => simp [heq, Load.Step.payload?]
  · next v heq => simp [heq, Load.Step.payload?]

/-- **A decoding load keeps the table's payload unless the read filled a new one**, whatever
the table held before. -/
theorem Table.load_of_decodes {t : Table} (hd : t.kind.decodes) (fs : Files.Tree) (dir : String)
    (f : Format) (o : Load.TableOptions) (nanos : Int) :
    (t.load fs dir f o nanos).1 = (t.decode fs dir f o nanos).1 := by
  unfold load
  split
  · rfl
  · rfl
  · next a hk => simp [hk, Kind.decodes] at hd

/-- A load step that only acts leaves the table as it was. -/
theorem Table.load_of_acts {t : Table} (hd : t.kind.decodes = false) (fs : Files.Tree)
    (dir : String) (f : Format) (o : Load.TableOptions) (nanos : Int) :
    (t.load fs dir f o nanos).1 = t := by
  unfold load
  split
  · next ty hk => simp [hk, Kind.decodes] at hd
  · next hk => simp [hk, Kind.decodes] at hd
  · rfl

/-- A table's load keeps its kind. -/
@[simp] theorem Table.load_kind (t : Table) (fs : Files.Tree) (dir : String) (f : Format)
    (o : Load.TableOptions) (nanos : Int) : (t.load fs dir f o nanos).1.kind = t.kind := by
  cases hd : t.kind.decodes
  · rw [load_of_acts hd]
  · rw [load_of_decodes hd, decode_table]

/-- **A table's own job fails exactly when its load or its own hook does.** -/
theorem runTable_fault_eq_none (name : String) (t : Table) (fs : Files.Tree) (dir : String)
    (f : Format) (o : Load.TableOptions) (nanos : Int) :
    (runTable name t fs dir f o nanos).2.1 = none ↔
      (t.load fs dir f o nanos).2.1.isDone ∧
        ((t.load fs dir f o nanos).1.afterLoad).all (·.2.isDone) := by
  unfold runTable
  rcases t.load fs dir f o nanos with ⟨t1, out, logs⟩
  cases out with
  | panicked v => simp [Outcome.isDone]
  | failed e => simp [Outcome.isDone]
  | done =>
    -- the own hook runs only now; its outcome decides
    rcases ha : t1.afterLoad with _ | ⟨t2, o2⟩
    · simp [ha, Outcome.isDone]
    · cases o2 <;> simp [ha, Outcome.isDone]

/-- Own job of a table: the table it leaves holds the load of its own load step. -/
theorem runTable_sameLoad (name : String) (t : Table) (fs : Files.Tree) (dir : String)
    (f : Format) (o : Load.TableOptions) (nanos : Int) :
    (t.load fs dir f o nanos).1.SameLoad (runTable name t fs dir f o nanos).1 := by
  unfold runTable
  rcases t.load fs dir f o nanos with ⟨t1, out, logs⟩
  cases out with
  | panicked v => exact .refl t1
  | failed e => exact .refl t1
  | done =>
    dsimp only
    rcases ha : t1.afterLoad with _ | ⟨t2, o2⟩
    · simpa [ha] using Table.SameLoad.refl t1
    · have hs := Table.afterLoad_sameLoad ha
      cases o2 <;> simpa [ha] using hs

/-! ## §4 — the load phase, as the list of every table's job -/

section Phase

variable (fs : Files.Tree) (dir : String) (f : Format) (opts : Load.Options) (done : Option Done)
  (nanos : Int) (session : String)

/-- **A table's job ends without a fault exactly when** the context was not done as the table
started, the table's own load was done and its own hook, if it has one, was done too. -/
theorem loadJob_fault_eq_none (name : String) (t : Table) :
    (loadJob fs dir f opts done nanos name t).2.1 = none ↔
      done = none ∧ (t.load fs dir f (opts.forTable name) nanos).2.1.isDone ∧
        ((t.load fs dir f (opts.forTable name) nanos).1.afterLoad).all (·.2.isDone) := by
  cases done
  · simp [loadJob, runTable_fault_eq_none]
  · simp [loadJob]

/-- A table's job keeps its kind. -/
@[simp] theorem loadJob_kind (name : String) (t : Table) :
    (loadJob fs dir f opts done nanos name t).1.kind = t.kind := by
  cases done
  · simp only [loadJob]
    rw [(runTable_sameLoad name t fs dir f _ nanos).kind, Table.load_kind]
  · simp [loadJob]

/-- What one table's job leaves in the load phase: the table under its name, and its report. -/
def jobEntry (e : String × Table) : (String × Table) × TableReport :=
  let j := loadJob fs dir f opts done nanos e.1 e.2
  ((e.1, j.1), jobReport done nanos e.1 j.1 j.2.1)

/-- A job's table and report carry the table's name. -/
@[simp] theorem jobEntry_name (e : String × Table) :
    (jobEntry fs dir f opts done nanos e).1.1 = e.1 := rfl

@[simp] theorem jobEntry_report_name (e : String × Table) :
    (jobEntry fs dir f opts done nanos e).2.name = e.1 := rfl

variable (ctx : Context)

/-- The jobs of tables that start one after another from position `start`, each with what the
context answered as it started. -/
def jobsFrom (start : Nat) (l : List (String × Table)) : List ((String × Table) × TableReport) :=
  l.mapIdx fun k e => jobEntry fs dir f opts (ctx.err (start + k)) nanos e

/-- The jobs of a load's tables, the `i`-th started `i`-th. -/
def jobs (l : List (String × Table)) : List ((String × Table) × TableReport) :=
  jobsFrom fs dir f opts nanos ctx 0 l

theorem jobsFrom_cons (start : Nat) (e : String × Table) (l : List (String × Table)) :
    jobsFrom fs dir f opts nanos ctx start (e :: l) =
      jobEntry fs dir f opts (ctx.err start) nanos e ::
        jobsFrom fs dir f opts nanos ctx (start + 1) l := by
  simp only [jobsFrom, List.mapIdx_cons, Nat.add_zero]
  congr 2
  funext k e'
  rw [Nat.add_assoc, Nat.add_comm 1 k]

/-- The `i`-th job is the `i`-th table's, with what the context answered as it started. -/
theorem getElem?_jobs (l : List (String × Table)) (i : Nat) :
    (jobs fs dir f opts nanos ctx l)[i]? = l[i]?.map (jobEntry fs dir f opts (ctx.err i) nanos) := by
  simp [jobs, jobsFrom, List.getElem?_mapIdx]

@[simp] theorem length_jobs (l : List (String × Table)) :
    (jobs fs dir f opts nanos ctx l).length = l.length := by
  simp [jobs, jobsFrom]

/-- The jobs' tables carry the tables' names, in order. -/
@[simp] theorem jobs_names (l : List (String × Table)) :
    (jobs fs dir f opts nanos ctx l).map (·.1.1) = l.map (·.1) :=
  List.ext_getElem? fun i => by simp [getElem?_jobs, Function.comp_def]

@[simp] theorem jobs_report_names (l : List (String × Table)) :
    (jobs fs dir f opts nanos ctx l).map (·.2.name) = l.map (·.1) :=
  List.ext_getElem? fun i => by simp [getElem?_jobs, Function.comp_def]

/-- One step of the load phase appends the job of the table that starts next to the pass. -/
theorem loadStep_eq (p : Pass) (e : String × Table) :
    loadStep fs dir f opts ctx nanos session p e =
      let j := jobEntry fs dir f opts (ctx.err p.tables.length) nanos e
      { tables := p.tables ++ [j.1]
        reports := p.reports ++ [j.2]
        logs := p.logs ++ (loadJob fs dir f opts (ctx.err p.tables.length) nanos e.1 e.2).2.2
        spans := p.spans ++ [tableSpan j.2]
        broker := publishTable session p.broker j.2 } :=
    rfl

/-- **The load phase, table by table.** Folding the jobs over tables extends a pass by each
table's job, in order, each computed from that table alone and what the context answered as
it started. -/
theorem foldl_loadStep (l : List (String × Table)) (p : Pass) :
    let q := l.foldl (loadStep fs dir f opts ctx nanos session) p
    let js := jobsFrom fs dir f opts nanos ctx p.tables.length l
    q.tables = p.tables ++ js.map (·.1) ∧ q.reports = p.reports ++ js.map (·.2) ∧
      q.spans = p.spans ++ js.map (tableSpan ·.2) := by
  induction l generalizing p with
  | nil => simp [jobsFrom]
  | cons e rest ih =>
    -- the rest starts one position later, after the table this step appends
    obtain ⟨ht, hr, hs⟩ := ih (loadStep fs dir f opts ctx nanos session p e)
    have hlen : (loadStep fs dir f opts ctx nanos session p e).tables.length =
        p.tables.length + 1 := by
      simp [loadStep_eq]
    rw [hlen] at ht hr hs
    simp only [List.foldl_cons, jobsFrom_cons, List.map_cons]
    refine ⟨?_, ?_, ?_⟩
    · rw [ht, loadStep_eq, List.append_assoc, List.singleton_append]
    · rw [hr, loadStep_eq, List.append_assoc, List.singleton_append]
    · rw [hs, loadStep_eq, List.append_assoc, List.singleton_append]

theorem loadAll_tables (tables : List (String × Table)) (b : Broker LoadEvent) :
    (loadAll fs dir f opts ctx nanos session tables b).tables =
      (jobs fs dir f opts nanos ctx tables).map (·.1) := by
  simpa [loadAll, jobs] using
    (foldl_loadStep fs dir f opts nanos session ctx tables ⟨[], [], [], [], b⟩).1

theorem loadAll_reports (tables : List (String × Table)) (b : Broker LoadEvent) :
    (loadAll fs dir f opts ctx nanos session tables b).reports =
      (jobs fs dir f opts nanos ctx tables).map (·.2) := by
  simpa [loadAll, jobs] using
    (foldl_loadStep fs dir f opts nanos session ctx tables ⟨[], [], [], [], b⟩).2.1

theorem loadAll_spans (tables : List (String × Table)) (b : Broker LoadEvent) :
    (loadAll fs dir f opts ctx nanos session tables b).spans =
      (jobs fs dir f opts nanos ctx tables).map (tableSpan ·.2) := by
  simpa [loadAll, jobs] using
    (foldl_loadStep fs dir f opts nanos session ctx tables ⟨[], [], [], [], b⟩).2.2

end Phase

end ConfigTables.Hub
