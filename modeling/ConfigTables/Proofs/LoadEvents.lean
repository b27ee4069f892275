import Mathlib
import ConfigTables.Proofs.Panics

/-!
# What a load announces

A hub with a broker publishes one event per table as the table's own job ends (its load and its
own hook), then one batch event once the report is settled. The cross-table hooks run between
the two, and a failing hook joins its fault onto the table's report after the table's event is
out. This module describes the events exactly:

* §1 Publishing events one after another, and the cross-table phase leaving the broker alone.
* §2 The events of the load phase, then of the whole load (`Hub.load_broker`).
* §3 Each reported table against its announcement, and the failed count that follows: the
  tables announced as failed, and the tables announced as loaded whose cross-table hook failed.
-/

namespace ConfigTables.Hub

/-! ## §1 — publishing events -/

/-- The event announcing a table's report under a session. -/
def TableReport.event (session : String) (r : TableReport) : LoadEvent :=
  .table session r.name r.path r.fault

/-- Publishes events one after another, each under its own type. -/
def publishEvents (b : Broker LoadEvent) (es : List LoadEvent) : Broker LoadEvent :=
  es.foldl (fun b e => b.publish e.type e) b

@[simp] theorem publishEvents_nil (b : Broker LoadEvent) : publishEvents b [] = b := rfl

@[simp] theorem publishEvents_append (b : Broker LoadEvent) (es es' : List LoadEvent) :
    publishEvents b (es ++ es') = publishEvents (publishEvents b es) es' := by
  simp [publishEvents, List.foldl_append]

theorem LoadEvent.type_batch (session : String) (failed total : Nat) :
    (LoadEvent.batch session failed total).type = "batch_failed" ↔ 0 < failed := by
  cases failed <;> simp [LoadEvent.type]

theorem TableReport.event_type (session : String) (r : TableReport) :
    (r.event session).type = if r.fault.isSome then "table_failed" else "table_loaded" := by
  unfold TableReport.event
  cases r.fault <;> rfl

/-- A cross-table hook touches no event. -/
theorem crossStep_broker (p : Pass) (name : String) : (crossStep p name).broker = p.broker := by
  unfold crossStep
  split
  · rfl
  · next out _ => cases out <;> rfl

theorem crossAll_broker (p : Pass) : (crossAll p).broker = p.broker := by
  unfold crossAll
  generalize p.tables.map (·.1) = names
  induction names generalizing p with
  | nil => rfl
  | cons n rest ih => rw [List.foldl_cons, ih, crossStep_broker]

/-! ## §2 — the events of a load -/

section Phase

variable (fs : Files.Tree) (dir : String) (f : Format) (opts : Load.Options) (ctx : Context)
  (nanos : Int) (session : String)

/-- The load phase announces each table's job, in order. -/
theorem foldl_loadStep_broker (l : List (String × Table)) (p : Pass) :
    (l.foldl (loadStep fs dir f opts ctx nanos session) p).broker =
      publishEvents p.broker
        ((jobsFrom fs dir f opts nanos ctx p.tables.length l).map (·.2.event session)) := by
  induction l generalizing p with
  | nil => rfl
  | cons e rest ih =>
    -- the step publishes the table's event before the rest of the phase, which starts after it
    have hlen : (loadStep fs dir f opts ctx nanos session p e).tables.length =
        p.tables.length + 1 := by
      simp [loadStep_eq]
    rw [List.foldl_cons, ih, hlen, jobsFrom_cons, loadStep_eq]
    rfl

end Phase

/-- What a load publishes on the hub's broker: the event of each table's own job, in name order,
then the batch event with the report's counts, all under the load's session. -/
theorem load_broker {h : Hub} (hb : h.Builds) (fs : Files.Tree) (req : Request)
    (stamp : Stamp) (ctx : Context) :
    ∃ rep, (h.load fs req stamp ctx).1.report? = some rep ∧
      (h.load fs req stamp ctx).1.broker =
        publishEvents h.broker
          ((h.loadedReports fs req stamp ctx).map (·.event stamp.session) ++
            [.batch stamp.session rep.failed rep.tables.length]) := by
  rw [load_eq hb]
  refine ⟨_, rfl, ?_⟩
  rw [publishEvents_append]
  show (crossAll (h.loadPass fs req stamp ctx)).broker.publish _ _ = _
  rw [crossAll_broker, Hub.loadPass, loadAll, foldl_loadStep_broker]
  simp only [Hub.loadedReports, List.map_map]
  rfl

/-! ## §3 — announcements against the report -/

/-- A cross-table hook keeps a table's name and file, and joins its own fault, if any, after the
table's earlier one. -/
theorem TableReport.crossed_announced (r : TableReport) (hook : Option (Table × Outcome)) :
    (r.crossed hook).name = r.name ∧ (r.crossed hook).path = r.path ∧
      ∃ c, (r.crossed hook).fault = crossFault r.name r.fault c := by
  refine ⟨?_, ?_, _, TableReport.crossed_fault r hook⟩
  all_goals
    unfold TableReport.crossed
    split <;> rfl

theorem crossFault_isSome (name : String) (prev c : Option Fault) :
    (crossFault name prev c).isSome = (prev.isSome || c.isSome) := by
  cases c <;> simp [crossFault]

/-- **Each reported table is its announced report with its own cross-table hook's fault
joined**: the hook of the table at that position, run against the view it ran on. -/
theorem load_announced_at {h : Hub} (hr : h.registry.Ordered) (hb : h.Builds) (fs : Files.Tree)
    (req : Request) (stamp : Stamp) (ctx : Context) {rep : Report}
    (hrep : (h.load fs req stamp ctx).1.report? = some rep) {i : Nat} {e : String × Table}
    {a r : TableReport} (he : (h.loaded fs req stamp ctx)[i]? = some e)
    (ha : (h.loadedReports fs req stamp ctx)[i]? = some a) (hr' : rep.tables[i]? = some r) :
    r.name = a.name ∧ r.path = a.path ∧
      r.fault = crossFault a.name a.fault ((e.2.afterAll
        (hookView (h.loaded fs req stamp ctx) (h.load fs req stamp ctx).1.tables i)).bind
          (·.2.fault?)) := by
  -- the table, its announcement and its report are what the fresh table at `i` left
  obtain ⟨x, hx, rfl⟩ : ∃ x, h.fresh[i]? = some x ∧
      (jobEntry fs req.dir req.format (h.loadOptions req) (ctx.err i) stamp.tableNanos x).1 = e := by
    simpa [Hub.loaded, getElem?_jobs] using he
  have ha' : a = (jobEntry fs req.dir req.format (h.loadOptions req) (ctx.err i)
      stamp.tableNanos x).2 := by
    simpa [Hub.loadedReports, getElem?_jobs, hx] using ha.symm
  obtain ⟨-, hat⟩ := Hub.load_at fs req stamp ctx hr hb hx
  rw [hrep, Option.map_some, Option.getD_some, hr', Option.some.injEq] at hat
  subst ha' hat
  obtain ⟨hn, hp, -⟩ := TableReport.crossed_announced _ _
  exact ⟨hn, hp, TableReport.crossed_fault _ _⟩

theorem load_announced {h : Hub} (hr : h.registry.Ordered) (hb : h.Builds) (fs : Files.Tree)
    (req : Request) (stamp : Stamp) (ctx : Context) {rep : Report}
    (hrep : (h.load fs req stamp ctx).1.report? = some rep) :
    List.Forall₂ (fun a r => r.name = a.name ∧ r.path = a.path ∧
        ∃ c, r.fault = crossFault a.name a.fault c)
      (h.loadedReports fs req stamp ctx) rep.tables := by
  have htables :
      ((h.load fs req stamp ctx).1.report?.map (·.tables)).getD [] = rep.tables := by
    rw [hrep]
    rfl
  have hfresh : h.fresh.length = h.accepted.length := by
    simpa using congrArg List.length (Hub.fresh_names hb)
  have hlen : (h.loadedReports fs req stamp ctx).length = rep.tables.length := by
    have hnames : rep.tables.length = h.accepted.length := by
      simpa [htables] using congrArg List.length (Hub.load_report_names fs req stamp ctx hb)
    rw [Hub.loadedReports, List.length_map, length_jobs, hfresh, hnames]
  refine List.forall₂_iff_get.mpr ⟨hlen, fun i h₁ h₂ => ?_⟩
  have hL : i < (h.loaded fs req stamp ctx).length := by
    simpa [Hub.loaded, Hub.loadedReports] using h₁
  obtain ⟨hn, hp, hf⟩ := load_announced_at hr hb fs req stamp ctx hrep
    (List.getElem?_eq_getElem hL) (List.getElem?_eq_getElem h₁) (List.getElem?_eq_getElem h₂)
  exact ⟨hn, hp, _, hf⟩

/-- Counting the failed tables of a report against what was announced: a table announced as
failed stays failed, and one announced as loaded is failed exactly when its cross-table hook
failed. -/
theorem failed_of_announced {as rs : List TableReport}
    (hF : List.Forall₂ (fun a r => ∃ c, r.fault = crossFault a.name a.fault c) as rs) :
    (rs.filter (!·.ok)).length = (as.filter (·.fault.isSome)).length +
      ((as.zip rs).filter fun ar => ar.1.fault.isNone && ar.2.fault.isSome).length := by
  induction hF with
  | nil => rfl
  | @cons a r as rs hc _ ih =>
    obtain ⟨c, hc⟩ := hc
    have hr : r.fault.isSome = (a.fault.isSome || c.isSome) := by
      rw [hc, crossFault_isSome]
    have hok : r.ok = !r.fault.isSome := (Option.not_isSome _).symm
    -- one table more on each side: it counts where its two faults put it
    simp only [List.filter_cons, List.zip_cons_cons, hok, hr, ← Option.not_isSome]
    generalize a.fault.isSome = x
    generalize c.isSome = y
    cases x <;> cases y <;> simp [ih] <;> omega

/-- The failed events among the announcements are those of the tables announced as failed. -/
theorem failedEvents_length (session : String) (as : List TableReport) :
    ((as.map (·.event session)).filter (·.type = "table_failed")).length =
      (as.filter (·.fault.isSome)).length := by
  rw [List.filter_map, List.length_map]
  congr 1
  refine List.filter_congr fun r _ => ?_
  rw [Function.comp_apply, TableReport.event_type]
  split <;> simp_all

/-- **A load announces each table before the cross-table hooks run.** For a hub over ordered
tables that all build, a load publishes on the hub's broker exactly one event per accepted
table, in name order, then one batch event, all under the load's session. The batch is failed
exactly when the report counts a failed table, and its total is the number of accepted tables.
A table's event carries the table's fault as its own job left it; its reported fault is that one
with the fault of its own cross-table hook joined, the hook run against the view of this load's
tables it ran on. So the report counts as failed the tables announced as failed, and also the
tables announced as loaded whose cross-table hook failed. -/
theorem load_events_announce_own_jobs {h : Hub} (hr : h.registry.Ordered) (hb : h.Builds)
    (fs : Files.Tree) (req : Request) (stamp : Stamp) (ctx : Context) :
    let announced := h.loadedReports fs req stamp ctx
    let L := h.loaded fs req stamp ctx
    let F := (h.load fs req stamp ctx).1.tables
    ∃ rep, (h.load fs req stamp ctx).1.report? = some rep ∧
      (h.load fs req stamp ctx).1.broker =
        publishEvents h.broker (announced.map (·.event stamp.session) ++
          [.batch stamp.session rep.failed rep.tables.length]) ∧
      announced.map (·.name) = h.accepted.map (·.1) ∧
      rep.tables.length = h.accepted.length ∧
      ((LoadEvent.batch stamp.session rep.failed rep.tables.length).type = "batch_failed" ↔
        0 < rep.failed) ∧
      (∀ (i : Nat) (e : String × Table) (a r : TableReport), L[i]? = some e →
        announced[i]? = some a → rep.tables[i]? = some r →
        r.name = a.name ∧ r.path = a.path ∧
          r.fault = crossFault a.name a.fault
            ((e.2.afterAll (hookView L F i)).bind (·.2.fault?))) ∧
      rep.failed =
        ((announced.map (·.event stamp.session)).filter (·.type = "table_failed")).length +
          ((announced.zip rep.tables).filter fun ar =>
            ar.1.fault.isNone && ar.2.fault.isSome).length := by
  intro announced L F
  obtain ⟨rep, hrep, hbroker⟩ := Hub.load_broker hb fs req stamp ctx
  have hF := Hub.load_announced hr hb fs req stamp ctx hrep
  have hnames : announced.map (·.name) = h.accepted.map (·.1) := by
    rw [Hub.loadedReports_names, Hub.loaded_names fs req stamp ctx hb]
  have htotal : rep.tables.length = h.accepted.length := by
    rw [← hF.length_eq, ← List.length_map (f := (·.name)), hnames, List.length_map]
  refine ⟨rep, hrep, hbroker, hnames, htotal, LoadEvent.type_batch _ _ _,
    fun i e a r he ha hr' => Hub.load_announced_at hr hb fs req stamp ctx hrep he ha hr', ?_⟩
  rw [Report.failed, failedEvents_length]
  exact failed_of_announced (hF.imp fun _ _ h => h.2.2)

/-- A load of the registered tables with events on announces each of them, then the batch, and
each table's report is its announcement with its own cross-table hook's fault joined. -/
theorem registry_load_events_announce_own_jobs :
    let h := Hub.create Command.registry ⟨.all, [], none, true⟩
    let stamp : Stamp := ⟨"s1", none, 0⟩
    let announced := h.loadedReports .empty ⟨"conf", .json, []⟩ stamp .background
    let L := h.loaded .empty ⟨"conf", .json, []⟩ stamp .background
    let F := (h.load .empty ⟨"conf", .json, []⟩ stamp .background).1.tables
    h.registry.Ordered ∧ h.Builds ∧
      ∃ rep, (h.load .empty ⟨"conf", .json, []⟩ stamp .background).1.report? = some rep ∧
        (h.load .empty ⟨"conf", .json, []⟩ stamp .background).1.broker =
          publishEvents h.broker (announced.map (·.event stamp.session) ++
            [.batch stamp.session rep.failed rep.tables.length]) ∧
        ∀ (i : Nat) (e : String × Table) (a r : TableReport), L[i]? = some e →
          announced[i]? = some a → rep.tables[i]? = some r →
          r.fault = crossFault a.name a.fault
            ((e.2.afterAll (hookView L F i)).bind (·.2.fault?)) :=
  have hall := load_events_announce_own_jobs registry_ordered (Hub.create_registry_builds _)
    .empty ⟨"conf", .json, []⟩ ⟨"s1", none, 0⟩ .background
  ⟨registry_ordered, Hub.create_registry_builds _, hall.imp fun _ hrep =>
    ⟨hrep.1, hrep.2.1, fun i e a r he ha hr' => (hrep.2.2.2.2.2.1 i e a r he ha hr').2.2⟩⟩

/-- A table whose own load succeeds and whose cross-table hook fails is announced as loaded,
yet the load's report and its batch event count it as failed. -/
theorem cross_hook_failure_announced_loaded :
    let k : Kind := .scripted ⟨"A", .act .succeed, .succeed, .act (.fail "x"), none⟩
    let h := Hub.create ⟨[("A", .table k)]⟩ ⟨.all, [], none, true⟩
    let out := h.load .empty ⟨"d", .json, []⟩ ⟨"s", none, 0⟩ .background
    ∃ rep, out.1.report? = some rep ∧ rep.failed = 1 ∧
      out.1.broker = publishEvents h.broker [.table "s" "A" "" none, .batch "s" 1 1] ∧
      (LoadEvent.table "s" "A" "" none).type = "table_loaded" := by
  intro k h out
  have hb : h.Builds := by
    intro e he
    simp only [Hub.accepted, h, Hub.create, Filter.accepts, List.filter_cons_of_pos,
      List.filter_nil, List.mem_singleton] at he
    subst he
    simp
  obtain ⟨rep, hrep, hbroker⟩ :=
    Hub.load_broker hb .empty ⟨"d", .json, []⟩ ⟨"s", none, 0⟩ .background
  -- the report, read off the load itself
  have hcounts : out.1.report?.map (fun r => (r.failed, r.tables.length)) = some (1, 1) := by
    decide +kernel
  rw [hrep, Option.map_some, Option.some.injEq, Prod.mk.injEq] at hcounts
  have hannounced : h.loadedReports .empty ⟨"d", .json, []⟩ ⟨"s", none, 0⟩ .background =
      [⟨"A", "", none, 0⟩] := rfl
  refine ⟨rep, hrep, hcounts.1, ?_, rfl⟩
  rw [hbroker, hannounced, hcounts.1, hcounts.2]
  rfl

end ConfigTables.Hub
