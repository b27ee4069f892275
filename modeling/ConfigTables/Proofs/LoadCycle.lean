import Mathlib
import ConfigTables.Command.Loader
import ConfigTables.Proofs.Barrier
/-!
# What a hub's load guarantees

A load of a hub whose accepted constructors all give tables runs in three phases: it builds
the accepted tables (`Hub.fresh`), runs each one's own job on its own (`Hub.loaded`), then runs
the cross-table hooks behind the barrier and publishes one snapshot. `load_eq` states this of
`Hub.load`, and the theorems below read the published hub off it.

* `load_runs_hooks_behind_barrier`: every cross-table hook runs once, in name order, against a
  view of exactly this load's tables, in state `loading`: its siblings as their own jobs left
  them and the tables of smaller names as their hooks left them. The previous snapshot plays
  no part.
* `load_isolates_and_aggregates`: the published tables are exactly the accepted names, in
  ascending order, each a new table of its constructor's kind; a table's fault is none exactly
  when its load ran and was done and both its hooks were done; the result and the hub's
  failures are the aggregate of exactly the failed tables over all accepted ones, and the state
  says whether there is one.
* `load_keeps_decoded_payload`: the payload a table serves after a load is the one its read
  filled, or its constructor's empty payload when the read failed or stopped (even after
  merging some files), whatever its hooks did.
-/

namespace ConfigTables.Hub

/-! ## §1 — a load, phase by phase -/

/-- The tables of a load once each has run its own job, before the cross-table hooks. -/
def loaded (h : Hub) (fs : Files.Tree) (req : Request) (stamp : Stamp) (ctx : Context) :
    List (String × Table) :=
  (jobs fs req.dir req.format (h.loadOptions req) stamp.tableNanos ctx h.fresh).map (·.1)

/-- The reports of a load's tables once each has run its own job. -/
def loadedReports (h : Hub) (fs : Files.Tree) (req : Request) (stamp : Stamp)
    (ctx : Context) : List TableReport :=
  (jobs fs req.dir req.format (h.loadOptions req) stamp.tableNanos ctx h.fresh).map (·.2)

/-- The pass of a load once every table has run its own job. -/
def loadPass (h : Hub) (fs : Files.Tree) (req : Request) (stamp : Stamp) (ctx : Context) :
    Pass :=
  loadAll fs req.dir req.format (h.loadOptions req) ctx stamp.tableNanos stamp.session
    h.fresh h.broker

/-- **A load is its phases.** When every accepted constructor gives a table, a load settles the
pass that runs each fresh table's own job, on the hub marked loading with the request kept. -/
theorem load_eq {h : Hub} (hb : h.Builds) (fs : Files.Tree) (req : Request) (stamp : Stamp)
    (ctx : Context) :
    h.load fs req stamp ctx =
      ({ h with last := some req, state := .loading }).settle req stamp h.instantiate.2
        (h.loadPass fs req stamp ctx) := by
  unfold Hub.load Hub.cycle
  dsimp only
  -- marking the hub changes neither its registry nor its settings, so it builds `h.fresh`
  have hfresh := instantiate_eq_fresh (h := { h with last := some req, state := .loading }) hb
  split
  · next v logs he =>
    rw [he] at hfresh
    cases hfresh
  · next tables logs0 he =>
    rw [he] at hfresh
    have htables : tables = h.fresh := Except.ok.inj hfresh
    have hlogs : logs0 = h.instantiate.2 := (congrArg Prod.snd he).symm
    subst htables hlogs
    rfl

/-- The program's own registry: its four built-in tables, in name order. -/
theorem registry_entries : Command.registry.entries =
    [("HeroConf", .table (.builtin .heroConf)), ("ItemConf", .table (.builtin .itemConf)),
      ("TaskConf", .table (.builtin .taskConf)), ("ThemeConf", .table (.builtin .themeConf))] :=
  rfl

/-- The program's own registry is ordered. -/
theorem registry_ordered : Command.registry.Ordered :=
  Registry.ordered_registerBuiltins Registry.ordered_empty

/-- Every constructor of the program's own registry gives a table, so a hub over it builds
whatever its filter accepts. -/
theorem builds_of_registry {h : Hub} (hreg : h.registry = Command.registry) : h.Builds := by
  intro e he
  have hm : e ∈ Command.registry.entries := hreg ▸ (List.mem_filter.mp he).1
  rw [registry_entries] at hm
  simp only [List.mem_cons, List.not_mem_nil, or_false] at hm
  rcases hm with rfl | rfl | rfl | rfl <;> simp

theorem create_registry_builds (s : Settings) : (Hub.create Command.registry s).Builds :=
  builds_of_registry rfl

/-- Placing a span under a parent does not change what hook it records. -/
@[simp] theorem hookTable?_withParent (s : Trace.Span) (q : Option Nat) :
    hookTable? { s with parent := q } = hookTable? s := rfl

/-- The span of a whole load records no hook. -/
theorem hookTable?_root (attrs : List (String × Trace.Value)) (st : Trace.Status)
    (errors : List String) (events : List (String × Option String)) (q : Option Nat) :
    hookTable? ⟨"hub.Load", attrs, st, errors, events, q⟩ = none := rfl

section Settle

variable (h : Hub) (req : Request) (stamp : Stamp) (logs0 : List Log.Record) (p : Pass)

theorem settle_tables : (h.settle req stamp logs0 p).1.tables = (crossAll p).tables := rfl

theorem settle_report :
    (h.settle req stamp logs0 p).1.report?.map (·.tables) = some (crossAll p).reports := rfl

theorem settle_result :
    (h.settle req stamp logs0 p).2.1 = .ok (aggregate (crossAll p).reports) := rfl

theorem settle_failures :
    (h.settle req stamp logs0 p).1.failures = aggregate (crossAll p).reports := rfl

theorem settle_state :
    (h.settle req stamp logs0 p).1.state =
      if (aggregate (crossAll p).reports).isSome then .failed else .ready := rfl

theorem settle_report_failed :
    (h.settle req stamp logs0 p).1.report?.map (·.failed) =
      some ((crossAll p).reports.filter (!·.ok)).length := rfl

end Settle

section Phases

variable {h : Hub} (fs : Files.Tree) (req : Request) (stamp : Stamp) (ctx : Context)

theorem loadPass_tables :
    (h.loadPass fs req stamp ctx).tables = h.loaded fs req stamp ctx :=
  loadAll_tables _ _ _ _ _ _ _ _ _

theorem loadPass_reports :
    (h.loadPass fs req stamp ctx).reports = h.loadedReports fs req stamp ctx :=
  loadAll_reports _ _ _ _ _ _ _ _ _

/-- The load phase records no hook span. -/
theorem loadPass_hookSpans :
    (h.loadPass fs req stamp ctx).spans.filterMap hookTable? = [] := by
  rw [Hub.loadPass, loadAll_spans]
  simp

/-- The loaded table at a position is the job there of the fresh table there, with what the
context answered as it started. -/
theorem loaded_getElem? (i : Nat) :
    (h.loaded fs req stamp ctx)[i]? = h.fresh[i]?.map fun x =>
      (jobEntry fs req.dir req.format (h.loadOptions req) (ctx.err i) stamp.tableNanos x).1 := by
  simp [Hub.loaded, getElem?_jobs, Function.comp_def]

/-- Every loaded table is the job of a fresh table, at that table's position. -/
theorem mem_loaded {e : String × Table} (he : e ∈ h.loaded fs req stamp ctx) :
    ∃ i x, h.fresh[i]? = some x ∧
      (jobEntry fs req.dir req.format (h.loadOptions req) (ctx.err i) stamp.tableNanos x).1 = e := by
  obtain ⟨i, hi⟩ := List.mem_iff_getElem?.mp he
  rw [Hub.loaded_getElem?] at hi
  obtain ⟨x, hx, rfl⟩ := Option.map_eq_some_iff.mp hi
  exact ⟨i, x, hx, rfl⟩

/-- The loaded tables carry the accepted names, in order. -/
theorem loaded_names (hb : h.Builds) :
    (h.loaded fs req stamp ctx).map (·.1) = h.accepted.map (·.1) := by
  rw [← Hub.fresh_names hb, Hub.loaded, List.map_map, ← jobs_names]
  rfl

/-- Each loaded report sits beside the table of its name. -/
theorem loadedReports_names :
    (h.loadedReports fs req stamp ctx).map (·.name) =
      (h.loaded fs req stamp ctx).map (·.1) := by
  simp only [Hub.loadedReports, Hub.loaded, List.map_map]
  exact (jobs_report_names ..).trans (jobs_names ..).symm

/-- The loaded tables of an ordered registry have distinct names. -/
theorem loaded_nodup (hr : h.registry.Ordered) (hb : h.Builds) :
    ((h.loaded fs req stamp ctx).map (·.1)).Nodup := by
  rw [Hub.loaded_names fs req stamp ctx hb]
  exact (Hub.accepted_ordered hr).nodup

/-- **The barrier of a load.** The published tables are what the cross-table phase leaves of
the loaded tables, hook by hook against `hookView`, with the reports alongside. -/
theorem load_barrier (hr : h.registry.Ordered) (hb : h.Builds) :
    let L := h.loaded fs req stamp ctx
    let F := (h.load fs req stamp ctx).1.tables
    (∀ i : Nat, F[i]? = L[i]?.map fun (e : String × Table) =>
      (e.1, e.2.crossed (hookView L F i))) ∧
    (∀ i : Nat, (crossAll (h.loadPass fs req stamp ctx)).reports[i]? =
      (L.zip (h.loadedReports fs req stamp ctx))[i]?.map
        fun (e : (String × Table) × TableReport) =>
          e.2.crossed (e.1.2.afterAll (hookView L F i))) ∧
    (crossAll (h.loadPass fs req stamp ctx)).spans.filterMap hookTable? =
      ((h.loaded fs req stamp ctx).filter (·.2.kind.hasCrossHook)).map (·.1) := by
  have hnames : (h.loadPass fs req stamp ctx).reports.map (·.name) =
      (h.loadPass fs req stamp ctx).tables.map (·.1) := by
    rw [Hub.loadPass_reports, Hub.loadPass_tables, Hub.loadedReports_names]
  have hnd : ((h.loadPass fs req stamp ctx).tables.map (·.1)).Nodup := by
    rw [Hub.loadPass_tables]
    exact Hub.loaded_nodup fs req stamp ctx hr hb
  obtain ⟨htab, hrep, hspan⟩ := crossAll_spec hnames hnd
  rw [Hub.loadPass_tables] at htab
  rw [Hub.loadPass_tables, Hub.loadPass_reports] at hrep
  rw [Hub.loadPass_hookSpans, Hub.loadPass_tables, List.nil_append] at hspan
  have hF : (h.load fs req stamp ctx).1.tables =
      (crossAll (h.loadPass fs req stamp ctx)).tables := by
    rw [load_eq hb, settle_tables]
  rw [hF]
  exact ⟨htab, hrep, hspan⟩

/-- The published tables carry the accepted names, in order. -/
theorem load_names (hb : h.Builds) :
    (h.load fs req stamp ctx).1.tables.map (·.1) = h.accepted.map (·.1) := by
  rw [load_eq hb, settle_tables, (crossAll_names _).1, Hub.loadPass_tables,
    Hub.loaded_names fs req stamp ctx hb]

/-- The hook spans of a load's trail are those of its cross-table phase. -/
theorem load_hookSpans (hb : h.Builds) :
    (h.load fs req stamp ctx).2.2.spans.filterMap hookTable? =
      (crossAll (h.loadPass fs req stamp ctx)).spans.filterMap hookTable? := by
  rw [load_eq hb]
  simp only [Hub.settle, List.filterMap_append, List.filterMap_map, Function.comp_def,
    hookTable?_withParent, List.filterMap_cons, hookTable?_root, List.filterMap_nil,
    List.append_nil]

/-- The snapshot a load publishes does not depend on the one it replaces. -/
theorem load_current_of_current (hb : h.Builds) (c : Option Snapshot) :
    ({ h with current := c }.load fs req stamp ctx).1.current =
      (h.load fs req stamp ctx).1.current := by
  have hb' : ({ h with current := c } : Hub).Builds := hb
  rw [load_eq hb', load_eq hb]
  rfl

/-- A load constructs nothing for a rejected name: a registry that differs only in rejected
entries, even ones whose constructor gives no table, yields the same snapshot and result. -/
theorem load_of_accepted (hb : h.Builds) (r : Registry)
    (hr : r.entries.filter (fun e => h.settings.filter.accepts e.1) = h.accepted) :
    ({ h with registry := r }.load fs req stamp ctx).1.current =
        (h.load fs req stamp ctx).1.current ∧
      ({ h with registry := r }.load fs req stamp ctx).2.1 =
        (h.load fs req stamp ctx).2.1 := by
  have hacc : ({ h with registry := r } : Hub).accepted = h.accepted := hr
  have hb' : ({ h with registry := r } : Hub).Builds := by
    unfold Hub.Builds
    rw [hacc]
    exact hb
  have hpass : ({ h with registry := r } : Hub).loadPass fs req stamp ctx =
      h.loadPass fs req stamp ctx := by
    simp only [Hub.loadPass, Hub.fresh, hacc]
    rfl
  rw [load_eq hb', load_eq hb, hpass]
  exact ⟨rfl, rfl⟩

end Phases

/-! ## §2 — the barrier -/

/-- **Every cross-table hook runs once, in name order, behind the barrier.** The table a load
publishes at position `i` is what its hook left against the view of this load's tables in state
`loading`: the tables before it as their own cross-table hooks left them, and the tables from it
on as their own load and own hook left them. So every hook sees each sibling's final post-load
state plus what the hooks of smaller names did. The view holds exactly the accepted names. The
trail records one hook per table that has one, in name order, including tables that failed and
tables skipped because the context was done as they started; and the previous snapshot plays
no part. -/
theorem load_runs_hooks_behind_barrier {h : Hub} (hr : h.registry.Ordered) (hb : h.Builds)
    (fs : Files.Tree) (req : Request) (stamp : Stamp) (ctx : Context) :
    let out := h.load fs req stamp ctx
    let L := h.loaded fs req stamp ctx
    let F := out.1.tables
    (∀ i : Nat, F[i]? = L[i]?.map fun (e : String × Table) =>
      (e.1, e.2.crossed (hookView L F i))) ∧
    (∀ i : Nat, (hookView L F i).names = h.accepted.map (·.1)) ∧
    out.2.2.spans.filterMap hookTable? = (L.filter (·.2.kind.hasCrossHook)).map (·.1) ∧
    ∀ c : Option Snapshot,
      ({ h with current := c }.load fs req stamp ctx).1.current = out.1.current := by
  intro out L F
  obtain ⟨htab, -, hspan⟩ := Hub.load_barrier fs req stamp ctx hr hb
  have hFn : F.map (·.1) = h.accepted.map (·.1) := Hub.load_names fs req stamp ctx hb
  have hLn : L.map (·.1) = h.accepted.map (·.1) := Hub.loaded_names fs req stamp ctx hb
  refine ⟨htab, ?_, ?_, ?_⟩
  · -- taking from the settled names and dropping from the loaded ones covers all names once
    intro i
    simp only [hookView, View.names, List.map_append, List.map_take, List.map_drop, hFn, hLn,
      List.take_append_drop]
  · rw [Hub.load_hookSpans fs req stamp ctx hb, hspan]
  · exact fun c => Hub.load_current_of_current fs req stamp ctx hb c

/-- The program's own tables, loaded from an empty tree, meet the barrier's hypotheses: the
hooks the trail records are those of the loaded tables that have one. -/
theorem registry_load_runs_hooks_in_order :
    let h := Hub.create Command.registry ⟨.all, [], none, false⟩
    h.registry.Ordered ∧ h.Builds ∧
      (h.load .empty ⟨"conf", .json, []⟩ .unplaced .background).2.2.spans.filterMap hookTable? =
        ((h.loaded .empty ⟨"conf", .json, []⟩ .unplaced .background).filter
          (·.2.kind.hasCrossHook)).map (·.1) :=
  ⟨registry_ordered, Hub.create_registry_builds _,
    (load_runs_hooks_behind_barrier registry_ordered (Hub.create_registry_builds _)
      _ _ _ _).2.2.1⟩

/-! ## §3 — isolation and aggregation -/

/-- A load's aggregate is none when no table failed, and otherwise names every failed table
with its fault, in order, over all the tables. -/
theorem aggregate_eq (rs : List TableReport) :
    aggregate rs = if rs.filterMap (fun r => r.fault.map (r.name, ·)) = [] then none
      else some (.aggregate rs.length (rs.filterMap fun r => r.fault.map (r.name, ·))) := by
  simp [aggregate, List.isEmpty_iff]

/-- No table failed exactly when every report is free of faults. -/
theorem failed_eq_nil_iff (rs : List TableReport) :
    rs.filterMap (fun r => r.fault.map (r.name, ·)) = [] ↔ ∀ r ∈ rs, r.fault = none := by
  simp [List.filterMap_eq_nil_iff]

/-- The failed count of a report is the number of failed tables. -/
theorem failed_count (rs : List TableReport) :
    (rs.filter (!·.ok)).length = (rs.filterMap fun r => r.fault.map (r.name, ·)).length := by
  induction rs with
  | nil => rfl
  | cons r rest ih =>
    rcases hf : r.fault with _ | e <;> simpa [List.filter_cons, TableReport.ok, hf] using ih

section Published

variable {h : Hub} (fs : Files.Tree) (req : Request) (stamp : Stamp) (ctx : Context)

/-- The reports a load publishes are those the cross-table phase leaves. -/
theorem load_reports (hb : h.Builds) :
    ((h.load fs req stamp ctx).1.report?.map (·.tables)).getD [] =
      (crossAll (h.loadPass fs req stamp ctx)).reports := by
  rw [load_eq hb, settle_report]
  rfl

/-- A load's result is the aggregate of the reports it publishes. -/
theorem load_result (hb : h.Builds) :
    (h.load fs req stamp ctx).2.1 =
      .ok (aggregate (((h.load fs req stamp ctx).1.report?.map (·.tables)).getD [])) := by
  rw [Hub.load_reports fs req stamp ctx hb, load_eq hb, settle_result]

/-- The failures a loaded hub reports are the aggregate of its published reports. -/
theorem load_failures (hb : h.Builds) :
    (h.load fs req stamp ctx).1.failures =
      aggregate (((h.load fs req stamp ctx).1.report?.map (·.tables)).getD []) := by
  rw [Hub.load_reports fs req stamp ctx hb, load_eq hb, settle_failures]

/-- A loaded hub has failed exactly when its aggregate names a failure, else it is ready. -/
theorem load_state (hb : h.Builds) :
    (h.load fs req stamp ctx).1.state =
      if (aggregate (((h.load fs req stamp ctx).1.report?.map (·.tables)).getD [])).isSome
      then .failed else .ready := by
  rw [Hub.load_reports fs req stamp ctx hb, load_eq hb, settle_state]

/-- The failed count of the published report counts its reports with a fault. -/
theorem load_failed (hb : h.Builds) :
    (h.load fs req stamp ctx).1.report?.map (·.failed) =
      some ((((h.load fs req stamp ctx).1.report?.map (·.tables)).getD []).filter
        (!·.ok)).length := by
  rw [Hub.load_reports fs req stamp ctx hb, load_eq hb, settle_report_failed]

/-- The published reports carry the accepted names, in order. -/
theorem load_report_names (hb : h.Builds) :
    (((h.load fs req stamp ctx).1.report?.map (·.tables)).getD []).map (·.name) =
      h.accepted.map (·.1) := by
  rw [Hub.load_reports fs req stamp ctx hb, (crossAll_names _).2, Hub.loadPass_reports,
    Hub.loadedReports_names, Hub.loaded_names fs req stamp ctx hb]

/-- **What a load leaves at one position.** The table at position `i` is the fresh table after
its own job and its cross-table hook against the view it ran on; its report is the job's report
with that hook's fault joined. -/
theorem load_at (hr : h.registry.Ordered) (hb : h.Builds) {i : Nat} {e : String × Table}
    (he : h.fresh[i]? = some e) :
    let out := h.load fs req stamp ctx
    let v := hookView (h.loaded fs req stamp ctx) out.1.tables i
    let job :=
      loadJob fs req.dir req.format (h.loadOptions req) (ctx.err i) stamp.tableNanos e.1 e.2
    out.1.tables[i]? = some (e.1, job.1.crossed v) ∧
      ((out.1.report?.map (·.tables)).getD [])[i]? =
        some ((jobReport (ctx.err i) stamp.tableNanos e.1 job.1 job.2.1).crossed
          (job.1.afterAll v)) := by
  intro out v job
  obtain ⟨htab, hrep, -⟩ := Hub.load_barrier fs req stamp ctx hr hb
  have hL : (h.loaded fs req stamp ctx)[i]? = some (e.1, job.1) := by
    simp [Hub.loaded, getElem?_jobs, he, jobEntry, job]
  have hR : (h.loadedReports fs req stamp ctx)[i]? =
      some (jobReport (ctx.err i) stamp.tableNanos e.1 job.1 job.2.1) := by
    simp [Hub.loadedReports, getElem?_jobs, he, jobEntry, job]
  have hz := (List.getElem?_zip_eq_some
    (z := ((e.1, job.1), jobReport (ctx.err i) stamp.tableNanos e.1 job.1 job.2.1))).mpr
    ⟨hL, hR⟩
  refine ⟨by rw [htab i, hL]; rfl, ?_⟩
  rw [Hub.load_reports fs req stamp ctx hb, hrep i, hz]
  rfl

/-- **A table's published fault is none exactly when** the context was not done as the table
started, its own load and own hook were done, and its cross-table hook, if it has one, was done
against the view it ran on. -/
theorem load_report_fault (hr : h.registry.Ordered) (hb : h.Builds) {i : Nat}
    {e : String × Table} (he : h.fresh[i]? = some e) :
    let L := h.loaded fs req stamp ctx
    let job :=
      loadJob fs req.dir req.format (h.loadOptions req) (ctx.err i) stamp.tableNanos e.1 e.2
    let loaded := e.2.load fs req.dir req.format ((h.loadOptions req).forTable e.1) stamp.tableNanos
    ∃ r, (((h.load fs req stamp ctx).1.report?.map (·.tables)).getD [])[i]? = some r ∧
      (r.fault = none ↔
        (ctx.err i = none ∧ loaded.2.1.isDone ∧ loaded.1.afterLoad.all (·.2.isDone)) ∧
          (job.1.afterAll (hookView L (h.load fs req stamp ctx).1.tables i)).all
            (·.2.isDone)) := by
  intro L job loaded
  obtain ⟨-, hrep⟩ := Hub.load_at fs req stamp ctx hr hb he
  refine ⟨_, hrep, ?_⟩
  rw [TableReport.crossed_fault_eq_none]
  exact and_congr_left' (loadJob_fault_eq_none _ _ _ _ _ _ _ _)

/-- Every published table is a table of its accepted constructor's kind. -/
theorem load_kinds (hr : h.registry.Ordered) (hb : h.Builds) :
    ∀ e ∈ (h.load fs req stamp ctx).1.tables,
      ∃ k, (e.1, .table k) ∈ h.accepted ∧ e.2.kind = k := by
  intro e he
  obtain ⟨htab, -, -⟩ := Hub.load_barrier fs req stamp ctx hr hb
  obtain ⟨i, hi⟩ := List.mem_iff_getElem?.mp he
  rw [htab i] at hi
  obtain ⟨l, hl, rfl⟩ := Option.map_eq_some_iff.mp hi
  obtain ⟨f, hf, rfl⟩ : ∃ f, h.fresh[i]? = some f ∧
      (jobEntry fs req.dir req.format (h.loadOptions req) (ctx.err i) stamp.tableNanos f).1 = l := by
    simpa [Hub.loaded, getElem?_jobs] using hl
  obtain ⟨k, hk, hfk⟩ := Hub.mem_fresh.mp (List.mem_of_getElem? hf)
  exact ⟨k, hk, by simp [jobEntry, hfk, Table.fresh]⟩

end Published

/-- **A load isolates its tables and aggregates their faults.** When every accepted
constructor of an ordered registry gives a table, a load publishes exactly the accepted names,
in ascending order and once each, each a new table of its constructor's kind: neither the
previous snapshot nor the constructors of rejected names play any part. A table's reported
fault is none exactly when the context was not done as the table started, its own load was
done, its own hook (if it has one) was done, and its cross-table hook (if it has one) was done against the view it ran
on. The result is none exactly when every fault is; otherwise it is the aggregate over all
accepted tables of exactly the failed ones with their faults. The hub's failures are that same
value, its report counts those failures, and its state is `failed` exactly when there is one. -/
theorem load_isolates_and_aggregates {h : Hub} (hr : h.registry.Ordered) (hb : h.Builds)
    (fs : Files.Tree) (req : Request) (stamp : Stamp) (ctx : Context) :
    let out := h.load fs req stamp ctx
    let L := h.loaded fs req stamp ctx
    let reports := (out.1.report?.map (·.tables)).getD []
    let failed := reports.filterMap fun r => r.fault.map (r.name, ·)
    let outcome : Option Fault :=
      if failed = [] then none else some (.aggregate h.accepted.length failed)
    (out.1.names = h.accepted.map (·.1) ∧
      (∀ e ∈ out.1.tables, ∃ k, (e.1, .table k) ∈ h.accepted ∧ e.2.kind = k) ∧
      (∀ c : Option Snapshot,
        ({ h with current := c }.load fs req stamp ctx).1.current = out.1.current) ∧
      ∀ r : Registry, r.entries.filter (fun e => h.settings.filter.accepts e.1) = h.accepted →
        ({ h with registry := r }.load fs req stamp ctx).1.current = out.1.current ∧
          ({ h with registry := r }.load fs req stamp ctx).2.1 = out.2.1) ∧
    (reports.map (·.name) = h.accepted.map (·.1) ∧
      (h.accepted.map (·.1)).Pairwise (· < ·)) ∧
    (∀ (i : Nat) (e : String × Table), h.fresh[i]? = some e →
      let loaded := e.2.load fs req.dir req.format ((h.loadOptions req).forTable e.1)
        stamp.tableNanos
      let job :=
        loadJob fs req.dir req.format (h.loadOptions req) (ctx.err i) stamp.tableNanos e.1 e.2
      ∃ r, reports[i]? = some r ∧
        (r.fault = none ↔
          (ctx.err i = none ∧ loaded.2.1.isDone ∧ loaded.1.afterLoad.all (·.2.isDone)) ∧
            (job.1.afterAll (hookView L out.1.tables i)).all (·.2.isDone))) ∧
    (out.2.1 = .ok outcome ∧ (out.2.1 = .ok none ↔ ∀ r ∈ reports, r.fault = none)) ∧
    (out.1.failures = outcome ∧ out.1.report?.map (·.failed) = some failed.length ∧
      out.1.state = if failed = [] then .ready else .failed) := by
  intro out L reports failed outcome
  have hlen : reports.length = h.accepted.length := by
    simpa using congrArg List.length (Hub.load_report_names fs req stamp ctx hb)
  -- the aggregate of the published reports is the outcome the statement names
  have hagg : aggregate reports = outcome := by
    rw [aggregate_eq, hlen]
  have hresult : out.2.1 = .ok outcome :=
    (Hub.load_result fs req stamp ctx hb).trans (by rw [hagg])
  refine ⟨⟨Hub.load_names fs req stamp ctx hb,
      Hub.load_kinds fs req stamp ctx hr hb,
      Hub.load_current_of_current fs req stamp ctx hb,
      fun r hr' => Hub.load_of_accepted fs req stamp ctx hb r hr'⟩,
    ⟨Hub.load_report_names fs req stamp ctx hb, Hub.accepted_ordered hr⟩,
    fun i e he => Hub.load_report_fault fs req stamp ctx hr hb he,
    ⟨hresult, ?_⟩, (Hub.load_failures fs req stamp ctx hb).trans hagg, ?_, ?_⟩
  · rw [hresult, ← failed_eq_nil_iff]
    change _ ↔ failed = []
    by_cases hf : failed = [] <;> simp [outcome, hf]
  · rw [Hub.load_failed fs req stamp ctx hb, failed_count]
  · rw [Hub.load_state fs req stamp ctx hb]
    change (if (aggregate reports).isSome then _ else _) = _
    by_cases hf : failed = [] <;> simp [hagg, outcome, hf]

/-- The program's own tables meet the isolation theorem's hypotheses. Loaded under a deadline
that passes while the third table loads, the fourth table to start finds it passed, and its
report has a fault. -/
theorem registry_load_skips_table_past_deadline :
    let h := Hub.create Command.registry ⟨.all, [], none, false⟩
    let out := h.load .empty ⟨"conf", .json, []⟩ ⟨"s", none, 1500000⟩
      (.withTimeout 4000000 1500000)
    h.registry.Ordered ∧ h.Builds ∧
      ∃ r, ((out.1.report?.map (·.tables)).getD [])[3]? = some r ∧ r.fault ≠ none := by
  intro h out
  have hfresh : h.fresh[3]? = some ("ThemeConf", Table.fresh (.builtin .themeConf)) := rfl
  obtain ⟨r, hr, hiff⟩ := (load_isolates_and_aggregates registry_ordered
    (Hub.create_registry_builds _) .empty ⟨"conf", .json, []⟩ ⟨"s", none, 1500000⟩
    (.withTimeout 4000000 1500000)).2.2.1 3 _ hfresh
  -- the deadline, 4 ms after the start, has passed when the fourth table starts at 4.5 ms
  have hdone : (Context.withTimeout 4000000 1500000).err 3 = some .deadlineExceeded := by
    simp [Context.withTimeout]
  exact ⟨registry_ordered, Hub.create_registry_builds _, r, hr,
    fun hnone => by simp [hdone] at hiff; exact hiff hnone⟩

/-! ## §4 — what a table serves -/

/-- In a list with distinct names, looking a name up finds its one entry. -/
theorem find?_name_of_mem {l : List (String × Table)} {n : String} {t : Table}
    (hnd : (l.map (·.1)).Nodup) (he : (n, t) ∈ l) :
    l.find? (fun x => decide (x.1 = n)) = some (n, t) := by
  induction l with
  | nil => cases he
  | cons a rest ih =>
    rw [List.map_cons, List.nodup_cons] at hnd
    rcases List.mem_cons.mp he with rfl | hrest
    · simp
    · have hne : a.1 ≠ n := fun h => hnd.1 (List.mem_map.mpr ⟨(n, t), hrest, h.symm⟩)
      simp [hne, ih hnd.2 hrest]

section Served

variable {h : Hub} (fs : Files.Tree) (req : Request) (stamp : Stamp) (ctx : Context)

/-- **What a load serves under an accepted name.** The getter finds the table its own job made
of a fresh table of the constructor's kind, as far as payload, file and loaded flag go: the
cross-table hook it ran afterwards changes none of them. The job is the one of the table's
position, with what the context answered as the table started there. -/
theorem load_get (hr : h.registry.Ordered) (hb : h.Builds) {name : String} {k : Kind}
    (hk : (name, .table k) ∈ h.accepted) :
    ∃ i t, h.fresh[i]? = some (name, Table.fresh k) ∧
      (h.load fs req stamp ctx).1.get? name = some t ∧
      (loadJob fs req.dir req.format (h.loadOptions req) (ctx.err i) stamp.tableNanos name
        (Table.fresh k)).1.SameLoad t := by
  have hmem : (name, Table.fresh k) ∈ h.fresh := Hub.mem_fresh.mpr ⟨k, hk, rfl⟩
  obtain ⟨i, hi⟩ := List.mem_iff_getElem?.mp hmem
  obtain ⟨hF, -⟩ := Hub.load_at fs req stamp ctx hr hb hi
  have hnd : ((h.load fs req stamp ctx).1.tables.map (·.1)).Nodup := by
    rw [Hub.load_names fs req stamp ctx hb]
    exact (Hub.accepted_ordered hr).nodup
  refine ⟨i, _, hi, ?_, Table.crossed_sameLoad _
    (hookView (h.loaded fs req stamp ctx) (h.load fs req stamp ctx).1.tables i)⟩
  rw [Hub.get?, find?_name_of_mem hnd (List.mem_of_getElem? hF)]
  rfl

end Served

/-- **A failed read leaves a table's payload as it was; a failed hook keeps the payload read.**
For a table whose load decodes its file, the load records the file and takes the payload the
read filled; when the read failed or stopped, whatever it had merged is dropped, and payload and
loaded flag are as they were, whatever the table held before. In a load of the hub under a
context that is never done, the getter serves under that name the payload the read filled, or
the constructor's empty payload when it did not fill one, whatever the table's hooks then did. -/
theorem load_keeps_decoded_payload {h : Hub} (hr : h.registry.Ordered) (hb : h.Builds)
    (fs : Files.Tree) (req : Request) (stamp : Stamp) {name : String} {k : Kind}
    (hk : (name, .table k) ∈ h.accepted) (hd : k.decodes) :
    let o := (h.loadOptions req).forTable name
    let step := (Load.loadMessage fs k.blank k.name req.dir req.format (some o)).step
    (∀ t : Table, t.kind = k →
      (t.load fs req.dir req.format o stamp.tableNanos).1 =
        { t with path := Load.tablePath k.name req.dir req.format (some o),
                 data := step.payload?.getD t.data,
                 loaded := t.loaded || step.payload?.isSome }) ∧
    ∃ t, (h.load fs req stamp .background).1.get? name = some t ∧
      t.data = step.payload?.getD k.blank ∧ t.loaded = step.payload?.isSome ∧
      t.path = Load.tablePath k.name req.dir req.format (some o) := by
  intro o step
  have hload : ∀ t : Table, t.kind = k →
      (t.load fs req.dir req.format o stamp.tableNanos).1 =
        { t with path := Load.tablePath k.name req.dir req.format (some o),
                 data := step.payload?.getD t.data,
                 loaded := t.loaded || step.payload?.isSome } := by
    rintro t rfl
    rw [Table.load_of_decodes hd, Table.decode_table]
    rfl
  refine ⟨hload, ?_⟩
  obtain ⟨i, t, -, hget, hsame⟩ := Hub.load_get fs req stamp .background hr hb hk
  -- under a context that is never done the job is the table's own run, which keeps what its
  -- load read
  have hrun := runTable_sameLoad name (Table.fresh k) fs req.dir req.format o stamp.tableNanos
  have hread := hrun.trans hsame
  rw [hload _ rfl] at hread
  exact ⟨t, hget, hread.data, hread.loaded, hread.path⟩

/-- The program's item table meets the hypotheses: a load from an empty tree serves under its
name the payload its read filled, or the empty one. -/
theorem registry_load_serves_item_payload :
    let h := Hub.create Command.registry ⟨.all, [], none, false⟩
    let req : Request := ⟨"conf", .json, []⟩
    let step := (Load.loadMessage .empty (Kind.builtin .itemConf).blank "ItemConf" "conf" .json
      (some ((h.loadOptions req).forTable "ItemConf"))).step
    h.registry.Ordered ∧ h.Builds ∧ ("ItemConf", .table (.builtin .itemConf)) ∈ h.accepted ∧
      (Kind.builtin .itemConf).decodes ∧
      ∃ t, (h.load .empty req .unplaced .background).1.get? "ItemConf" = some t ∧
        t.data = step.payload?.getD (Kind.builtin .itemConf).blank :=
  have hk : ("ItemConf", .table (.builtin .itemConf)) ∈
      (Hub.create Command.registry ⟨.all, [], none, false⟩).accepted :=
    have hm : ("ItemConf", Maker.table (.builtin .itemConf)) ∈ Command.registry.entries := by
      rw [registry_entries]
      simp
    List.mem_filter.mpr ⟨hm, rfl⟩
  have hw := (load_keeps_decoded_payload registry_ordered (Hub.create_registry_builds _) .empty
    ⟨"conf", .json, []⟩ .unplaced hk rfl).2
  ⟨registry_ordered, Hub.create_registry_builds _, hk, rfl,
    hw.imp fun _ ht => ⟨ht.1, ht.2.1⟩⟩

end ConfigTables.Hub
