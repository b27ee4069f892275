import Mathlib
import ConfigTables.Proofs.LoadCycle
/-!
# Steps that stop abruptly

A table's load, its own hook and its cross-table hook may each stop abruptly with a value
instead of returning. A load contains every such stop within the table it happened in:

* `ownFault`, `runTable_fault`: a table's own job ends with a fault fixed by how its own load
  and own hook ended, and by nothing else. A load that stopped abruptly is a parse failure of
  the table's file under its registry name, caused by the stop; an own hook that stopped
  abruptly fails that hook.
* `crossFault`, `TableReport.crossed_fault`: the cross-table hook's failure, a stop included,
  is joined after the table's earlier fault.
* `load_contains_panics`: a load still returns its aggregate and publishes its snapshot; every
  table runs all three of its steps, and reports exactly the fault its own steps give.
-/

namespace ConfigTables.Hub

/-! ## §1 — the fault of a table's own steps -/

/-- The fault a table's own job ends with, from how its load ended and, after a load that was
done, how its own hook ended: a load that stopped abruptly is a parse failure of the table's
file, caused by the stop; an own hook that failed or stopped abruptly fails that hook. -/
def ownFault (name path : String) (load : Outcome) (own : Option Outcome) : Option Fault :=
  match load with
  | .panicked v => some (.load .parse name path (some (.panic v)))
  | .failed e => some e
  | .done => (own.bind Outcome.fault?).map (.hook name .afterLoad ·)

/-- A table's fault once its cross-table hook ended: the hook's fault, if any, joined after the
earlier one. -/
def crossFault (name : String) (prev : Option Fault) (hook : Option Fault) : Option Fault :=
  match hook with
  | some e => some (joinAfter prev (.hook name .afterLoadAll e))
  | none => prev

@[simp] theorem ownFault_panicked (name path v : String) (own : Option Outcome) :
    ownFault name path (.panicked v) own = some (.load .parse name path (some (.panic v))) := rfl

@[simp] theorem ownFault_own_panicked (name path v : String) :
    ownFault name path .done (some (.panicked v)) = some (.hook name .afterLoad (.panic v)) := rfl

/-- **A table's own job fails as its own steps say.** Its fault is `ownFault` of how its load
and its own hook ended, with the file the load resolved. -/
theorem runTable_fault (name : String) (t : Table) (fs : Files.Tree) (dir : String) (f : Format)
    (o : Load.TableOptions) (nanos : Int) :
    (runTable name t fs dir f o nanos).2.1 =
      ownFault name (Load.tablePath name dir f (some o)) (t.load fs dir f o nanos).2.1
        ((t.load fs dir f o nanos).1.afterLoad.map (·.2)) := by
  unfold runTable
  rcases t.load fs dir f o nanos with ⟨t1, out, logs⟩
  cases out with
  | panicked v => rfl
  | failed e => rfl
  | done =>
    -- the own hook runs only after a load that was done
    rcases ha : t1.afterLoad with _ | ⟨t2, o2⟩
    · simp [ha, ownFault]
    · cases o2 <;> simp [ha, ownFault, Outcome.fault?]

/-- A job that found the context not done is the table's own run. -/
theorem loadJob_fault (fs : Files.Tree) (dir : String) (f : Format) (opts : Load.Options)
    (nanos : Int) (name : String) (t : Table) :
    (loadJob fs dir f opts none nanos name t).2.1 =
      ownFault name (Load.tablePath name dir f (some (opts.forTable name)))
        (t.load fs dir f (opts.forTable name) nanos).2.1
        ((t.load fs dir f (opts.forTable name) nanos).1.afterLoad.map (·.2)) := by
  simp [loadJob, runTable_fault]

/-- A report after the cross-table hook carries `crossFault` of its earlier fault and the
hook's. -/
theorem TableReport.crossed_fault (r : TableReport) (hook : Option (Table × Outcome)) :
    (r.crossed hook).fault = crossFault r.name r.fault (hook.bind (·.2.fault?)) := by
  unfold crossed crossFault
  cases hook.bind (·.2.fault?) <;> rfl

/-- A cross-table hook that stopped abruptly joins a hook failure caused by the stop after the
table's earlier fault. -/
theorem TableReport.crossed_panicked (r : TableReport) (t : Table) (v : String) :
    (r.crossed (some (t, .panicked v))).fault =
      some (joinAfter r.fault (.hook r.name .afterLoadAll (.panic v))) := by
  rw [crossed_fault]
  rfl

/-! ## §2 — a whole load -/

section Load

variable {h : Hub} (fs : Files.Tree) (req : Request) (stamp : Stamp) (ctx : Context)

/-- A load over tables that all build publishes a snapshot, returns its aggregate, and leaves
the hub failed or ready. -/
theorem load_publishes (hb : h.Builds) :
    let out := h.load fs req stamp ctx
    out.2.1 = .ok out.1.failures ∧ out.1.current.isSome ∧ out.1.state ≠ .loading := by
  intro out
  refine ⟨(Hub.load_result fs req stamp ctx hb).trans ?_, ?_, ?_⟩
  · rw [Hub.load_failures fs req stamp ctx hb]
  · show (h.load fs req stamp ctx).1.current.isSome
    rw [load_eq hb]
    rfl
  · rw [Hub.load_state fs req stamp ctx hb]
    split <;> simp

end Load

/-- **A step that stops abruptly fails only its own table.** Over an ordered registry whose
accepted constructors all give tables, a load returns normally with its aggregate, publishes its
snapshot and leaves the hub failed or ready. Every table, whatever its siblings did, has its own
job and its cross-table hook run, and reports exactly `crossFault` of its own job's fault and its
cross-table hook's: its own steps alone decide it. A load that stopped abruptly with a value is a
parse failure of the table's file under its registry name, caused by the stop; an own hook that
stopped abruptly fails that hook; a cross-table hook that stopped abruptly joins that hook's
failure after the earlier fault. -/
theorem load_contains_panics {h : Hub} (hr : h.registry.Ordered) (hb : h.Builds)
    (fs : Files.Tree) (req : Request) (stamp : Stamp) (ctx : Context) :
    let out := h.load fs req stamp ctx
    let reports := (out.1.report?.map (·.tables)).getD []
    (out.2.1 = .ok out.1.failures ∧ out.1.current.isSome ∧ out.1.state ≠ .loading) ∧
    ∀ (i : Nat) (e : String × Table), h.fresh[i]? = some e →
      let o := (h.loadOptions req).forTable e.1
      let path := Load.tablePath e.1 req.dir req.format (some o)
      let ld := e.2.load fs req.dir req.format o stamp.tableNanos
      let job :=
        loadJob fs req.dir req.format (h.loadOptions req) (ctx.err i) stamp.tableNanos e.1 e.2
      let v := hookView (h.loaded fs req stamp ctx) out.1.tables i
      out.1.tables[i]? = some (e.1, job.1.crossed v) ∧
      ∃ r, reports[i]? = some r ∧
        r.fault = crossFault e.1 job.2.1 ((job.1.afterAll v).bind (·.2.fault?)) ∧
        (ctx.err i = none → job.2.1 = ownFault e.1 path ld.2.1 (ld.1.afterLoad.map (·.2))) ∧
        (∀ x, ctx.err i = none → ld.2.1 = .panicked x →
          job.2.1 = some (.load .parse e.1 path (some (.panic x)))) ∧
        (∀ t2 x, ctx.err i = none → ld.2.1 = .done → ld.1.afterLoad = some (t2, .panicked x) →
          job.2.1 = some (.hook e.1 .afterLoad (.panic x))) ∧
        (∀ t' x, job.1.afterAll v = some (t', .panicked x) →
          r.fault = some (joinAfter job.2.1 (.hook e.1 .afterLoadAll (.panic x)))) := by
  intro out reports
  refine ⟨Hub.load_publishes fs req stamp ctx hb, ?_⟩
  intro i e he o path ld job v
  obtain ⟨htab, hrep⟩ := Hub.load_at fs req stamp ctx hr hb he
  -- a job that found the context not done has `ownFault` of the table's own steps
  have hown : ctx.err i = none →
      job.2.1 = ownFault e.1 path ld.2.1 (ld.1.afterLoad.map (·.2)) := by
    intro hnone
    simp only [job, hnone, loadJob_fault]
    rfl
  refine ⟨htab, _, hrep, by rw [TableReport.crossed_fault]; rfl, hown, ?_, ?_, ?_⟩
  · intro x hc hx
    rw [hown hc, hx, ownFault_panicked]
  · intro t2 x hc hd hx
    rw [hown hc, hd, hx]
    rfl
  · intro t' x hx
    rw [hx, TableReport.crossed_panicked]
    rfl

/-- A table whose load stops abruptly, in a hub of its own, reports the parse failure of its
file caused by the stop: its cross-table hook was done and adds nothing. -/
theorem scripted_load_panic_reports_parse_fault :
    let k : Kind := .scripted ⟨"Boom", .act (.panic "decoder exploded"), .succeed, .act .succeed, none⟩
    let h := Hub.create ⟨[("Boom", .table k)]⟩ ⟨.all, [], none, false⟩
    let req : Request := ⟨"conf", .json, []⟩
    h.registry.Ordered ∧ h.Builds ∧
      ∃ r, (((h.load .empty req .unplaced .background).1.report?.map (·.tables)).getD [])[0]? =
          some r ∧
        r.fault = some (.load .parse "Boom"
          (Load.tablePath "Boom" "conf" .json (some ((h.loadOptions req).forTable "Boom")))
          (some (.panic "decoder exploded"))) := by
  intro k h req
  have hr : h.registry.Ordered := List.pairwise_singleton _ _
  have hb : h.Builds := by
    intro e he
    simp only [Hub.accepted, h, Hub.create, Filter.accepts, List.filter_cons_of_pos,
      List.filter_nil, List.mem_singleton] at he
    subst he
    simp
  obtain ⟨-, hall⟩ := load_contains_panics hr hb .empty req .unplaced .background
  obtain ⟨-, r, hr0, hfault, -, hpanic, -, -⟩ := hall 0 ("Boom", Table.fresh k) rfl
  refine ⟨hr, hb, r, hr0, ?_⟩
  rw [hfault, hpanic "decoder exploded" rfl rfl]
  rfl

end ConfigTables.Hub
