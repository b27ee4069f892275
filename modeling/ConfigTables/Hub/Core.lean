import ConfigTables.Hub.Registry
import ConfigTables.Broker
import ConfigTables.Trace.Export
/-!
# The hub and its load cycle

A hub owns one live table per accepted registry name. A load builds fresh tables for every
accepted name in ascending order, then:

* loads each table on its own: a failing table does not stop the others. A table's own hook
  runs only after its load succeeded; a failed hook keeps the data that was read. A load
  that stops abruptly is a parse failure of the table's default file; a hook that stops
  abruptly fails that hook. Each table asks the load's context whether it is done as the
  table starts: a table that starts once the context is cancelled or past its deadline fails
  without being read, and the tables started before still load.
* once every table is done, runs each table's cross-table hook in name order, failed tables
  included, against a view whose state is `loading` and whose tables are the new ones; a
  hook's failure is joined after the table's earlier fault.
* replaces the hub's tables, report and faults by the new ones as one snapshot, also when
  tables failed: failed tables keep their empty data and stay queryable.

The result is the aggregate of the tables' faults, or nothing when all succeeded; the state
is then `failed` or `ready`.
-/

namespace ConfigTables.Hub

/-- Which registry names take part in a hub. -/
inductive Filter where
  | all
  | only (names : List String)
  | except (names : List String)
  deriving Repr, Inhabited

/-- Whether a filter accepts a name. -/
def Filter.accepts : Filter → String → Bool
  | .all, _ => true
  | .only ns, n => ns.contains n
  | .except ns, n => !ns.contains n

/-- What the mutation check does with a table that changed: record the call, or log a line
diff. -/
inductive Handler where
  | recording
  | logging
  deriving Repr, Inhabited, DecidableEq

/-- The mutation check: its period in milliseconds (zero for the default of a minute) and
its handler. -/
structure Watch where
  intervalMs : Nat
  handler : Handler
  deriving Repr, Inhabited

/-- How a hub is set up. -/
structure Settings where
  filter : Filter
  /-- Load setters applied before each load's own. -/
  defaults : List Load.Setter
  mutation : Option Watch
  /-- Whether load events are published. -/
  events : Bool

/-- An event published during a load: one per table, then one for the batch. -/
inductive LoadEvent where
  | table (session name path : String) (fault : Option Fault)
  | batch (session : String) (failed total : Nat)
  deriving Inhabited

/-- The type of an event. -/
def LoadEvent.type : LoadEvent → String
  | .table _ _ _ none => "table_loaded"
  | .table _ _ _ (some _) => "table_failed"
  | .batch _ 0 _ => "batch_loaded"
  | .batch _ _ _ => "batch_failed"

/-- What a load is asked to read. -/
structure Request where
  dir : String
  format : Format
  setters : List Load.Setter

/-- Everything one load produced. -/
structure Snapshot where
  /-- The tables by name, names in ascending order. -/
  tables : List (String × Table)
  /-- The aggregate of the tables' faults, if any failed. -/
  failures : Option Fault
  report : Report
  /-- Each table's canonical text after the load, when mutations are checked. -/
  originals : List (String × String)
  deriving Inhabited

end ConfigTables.Hub

namespace ConfigTables

/-- A hub: its registry and settings, the request it loaded last, its state, the snapshot it
serves and the broker its load events go to. -/
structure Hub where
  registry : Hub.Registry
  settings : Hub.Settings
  last : Option Hub.Request
  state : Hub.State
  current : Option Hub.Snapshot
  broker : Broker Hub.LoadEvent

end ConfigTables

namespace ConfigTables.Hub

/-- What a load reports besides its result: log records and finished spans. -/
structure Trail where
  logs : List Log.Record
  spans : List Trace.Span
  deriving Inhabited

/-- A hub over a registry that has loaded nothing; with events on, one subscription takes
every event. -/
def create (r : Registry) (s : Settings) : Hub :=
  let b : Broker LoadEvent := Broker.create Broker.defaultCapacity
  ⟨r, s, none, .idle, none, if s.events then ((b.subscribe []).toOption.map (·.2)).getD b else b⟩

/-! ## One table -/

/-- The record of a step that stopped abruptly. -/
def panicLog (name stage value : String) : Log.Record :=
  ⟨.error, "hub", "table panic recovered", [.text "table", .text name, .text "stage", .text stage,
    .text "panic", .text value, .text "stack", .text ""]⟩

/-- Loads one table, which takes `nanos`, and runs its own hook; the table, its fault, and the
records made. -/
def runTable (name : String) (t : Table) (fs : Files.Tree) (dir : String) (f : Format)
    (o : Load.TableOptions) (nanos : Int) : Table × Option Fault × List Log.Record :=
  let (t1, out, logs) := t.load fs dir f o nanos
  match out with
  | .panicked v =>
    (t1, some (.load .parse name (Load.tablePath name dir f (some o)) (some (.panic v))),
      logs ++ [panicLog name "load" v])
  | .failed e => (t1, some e, logs)
  | .done =>
    match t1.afterLoad with
    | none => (t1, none, logs)
    | some (t2, .done) => (t2, none, logs)
    | some (t2, .failed e) => (t2, some (.hook name .afterLoad e), logs)
    | some (t2, .panicked v) =>
      (t2, some (.hook name .afterLoad (.panic v)), logs ++ [panicLog name "after_load" v])

/-! ## The context of a load -/

/-- Why a context is done: it was cancelled, or its deadline passed. -/
inductive Done where
  | canceled
  | deadlineExceeded
  deriving Repr, DecidableEq

/-- The error a done context gives. -/
def Done.sentinel : Done → Sentinel
  | .canceled => .canceled
  | .deadlineExceeded => .deadlineExceeded

/-- The context a load runs under, as its tables see it: `err i` is what the context answers
when the `i`-th table to start asks whether it is done. A context that is done stays done, for
the same reason. -/
structure Context where
  err : Nat → Option Done
  stays : ∀ {i j : Nat}, i ≤ j → ∀ d, err i = some d → err j = some d

/-- A context that is never done. -/
def Context.background : Context := ⟨fun _ => none, fun _ _ h => nomatch h⟩

/-- A context cancelled before the load starts. -/
def Context.cancelled : Context := ⟨fun _ => some .canceled, fun _ _ h => h⟩

/-- A context that is never done, or one cancelled before the load starts. -/
def Context.ofCancelled (b : Bool) : Context := if b then .cancelled else .background

/-- A context whose deadline falls `timeout` nanoseconds after the load starts, for tables that
start one after another `perTable` nanoseconds apart: a table that starts at or after the
deadline finds it passed. A timeout that is not positive sets no deadline. -/
def Context.withTimeout (timeout : Int) (perTable : Nat) : Context where
  err i := if 0 < timeout ∧ timeout ≤ ((i * perTable : Nat) : Int) then some .deadlineExceeded
    else none
  stays := by
    intro i j hij d h
    have hmul : ((i * perTable : Nat) : Int) ≤ ((j * perTable : Nat) : Int) :=
      Int.ofNat_le.mpr (Nat.mul_le_mul_right _ hij)
    split at h
    · next hi => rw [if_pos ⟨hi.1, Int.le_trans hi.2 hmul⟩]; exact h
    · cases h

/-- The fault of a table skipped because the context was done when it started. -/
def skippedFault (name : String) (d : Done) : Fault :=
  .load .illegalParam name "" (some (.sentinel d.sentinel))

/-- A span of one table's load. -/
def tableSpan (r : TableReport) : Trace.Span :=
  ⟨"hub.LoadTable", [("confhub.table", .text r.name), ("confhub.path", .text r.path)],
    (match r.fault with
      | some e => .error e.message
      | none => .unset),
    (match r.fault with
      | some e => [e.message]
      | none => []), [], none⟩

/-- State for loading tables one after another. -/
structure Pass where
  tables : List (String × Table)
  reports : List TableReport
  logs : List Log.Record
  spans : List Trace.Span
  broker : Broker LoadEvent
  deriving Inhabited

/-- Loads one table within a load, which takes `nanos`: the table after its own load and hook,
its fault, and the records made. `done` is what the context answered as the table started: a
table that finds it done is skipped and fails unread. -/
def loadJob (fs : Files.Tree) (dir : String) (f : Format) (opts : Load.Options)
    (done : Option Done) (nanos : Int) (name : String) (t : Table) :
    Table × Option Fault × List Log.Record :=
  match done with
  | some d => (t, some (skippedFault name d), [])
  | none => runTable name t fs dir f (opts.forTable name) nanos

/-- The report of a table once its load is over; a skipped table took no time. -/
def jobReport (done : Option Done) (nanos : Int) (name : String) (t : Table)
    (fault : Option Fault) : TableReport :=
  ⟨name, t.path, fault, if done.isSome then 0 else nanos⟩

/-- Publishes the event of a table's report under the load's session. -/
def publishTable (session : String) (b : Broker LoadEvent) (r : TableReport) :
    Broker LoadEvent :=
  b.publish (LoadEvent.table session r.name r.path r.fault).type
    (.table session r.name r.path r.fault)

/-- Adds the job of one table to a pass: its table, report, records, span and event. The table
starts after those already in the pass, and asks the context whether it is done. -/
def loadStep (fs : Files.Tree) (dir : String) (f : Format) (opts : Load.Options) (ctx : Context)
    (nanos : Int) (session : String) (p : Pass) (e : String × Table) : Pass :=
  let done := ctx.err p.tables.length
  let (t', fault, logs) := loadJob fs dir f opts done nanos e.1 e.2
  let r := jobReport done nanos e.1 t' fault
  { tables := p.tables ++ [(e.1, t')], reports := p.reports ++ [r], logs := p.logs ++ logs,
    spans := p.spans ++ [tableSpan r], broker := publishTable session p.broker r }

/-- Loads the tables in order, each on its own and each taking `nanos`, their events published
under the load's session. -/
def loadAll (fs : Files.Tree) (dir : String) (f : Format) (opts : Load.Options) (ctx : Context)
    (nanos : Int) (session : String) (tables : List (String × Table)) (b : Broker LoadEvent) :
    Pass :=
  tables.foldl (loadStep fs dir f opts ctx nanos session) ⟨[], [], [], [], b⟩

/-! ## Cross-table hooks -/

/-- Joins a hook's fault after a table's earlier one. -/
def joinAfter (prev : Option Fault) (e : Fault) : Fault :=
  match prev with
  | some p => .join [p, e]
  | none => .join [e]

/-- Runs the cross-table hook of the table at one name, against the tables as they are. -/
def crossStep (p : Pass) (name : String) : Pass :=
  match (View.get? ⟨.loading, p.tables⟩ name).bind (fun t => t.afterAll ⟨.loading, p.tables⟩) with
  | none => p
  | some (t', out) =>
    let tables := p.tables.map (fun e => if e.1 = name then (name, t') else e)
    let ok : Trace.Span := ⟨"hub.ProcessAfterLoadAll", [("confhub.table", .text name)], .unset, [], [], none⟩
    let failWith (e : Fault) (extra : List Log.Record) : Pass :=
      let he := Fault.hook name .afterLoadAll e
      { p with
        tables := tables
        reports := p.reports.map (fun r => if r.name = name then { r with fault := some (joinAfter r.fault he) } else r)
        logs := p.logs ++ extra ++ [⟨.warn, "hub", "cross-table hook failed",
          [.text "table", .text name, .text "error", .failure e.message]⟩]
        spans := p.spans ++ [{ ok with status := .error he.message, errors := [he.message] }] }
    match out with
    | .done => { p with tables := tables, spans := p.spans ++ [ok] }
    | .failed e => failWith e []
    | .panicked v => failWith (.panic v) [panicLog name "after_load_all" v]

/-- Runs every cross-table hook in name order. -/
def crossAll (p : Pass) : Pass :=
  (p.tables.map (·.1)).foldl crossStep p

/-! ## The load cycle -/

/-- The canonical texts of tables that can be written as text; the others are logged. -/
def canonicalize (tables : List (String × Table)) : List (String × String) × List Log.Record :=
  tables.foldl (fun (acc : List (String × String) × List Log.Record) (name, t) =>
    match Codec.jsonText t.message with
    | .ok text => (acc.1 ++ [(name, text)], acc.2)
    | .error e => (acc.1, acc.2 ++ [⟨.warn, "hub", "cannot snapshot table",
        [.text "table", .text name, .text "error", .failure e]⟩])) ([], [])

/-- The aggregate fault of a load's reports, if any table failed. -/
def aggregate (reports : List TableReport) : Option Fault :=
  let failures := reports.filterMap (fun r => r.fault.map (r.name, ·))
  if failures.isEmpty then none else some (.aggregate reports.length failures)

/-- The registry entries a hub's filter accepts, in name order. -/
def accepted (h : Hub) : List (String × Maker) :=
  h.registry.entries.filter (fun e => h.settings.filter.accepts e.1)

/-- Builds the table of one accepted entry after those built so far; a constructor that gives
no table stops the load. Also logs a table whose name differs from its registry key. -/
def buildStep (acc : Except String (List (String × Table)) × List Log.Record)
    (e : String × Maker) : Except String (List (String × Table)) × List Log.Record :=
  match acc.1, e.2 with
  | .error v, _ => (.error v, acc.2)
  | .ok _, .absent => (.error Load.nilOptionsPanic, acc.2)
  | .ok ts, .table k =>
    let t := Table.fresh k
    let note : List Log.Record :=
      if t.name ≠ e.1 then
        [⟨.warn, "registry", "table name differs from registry key",
          [.text "key", .text e.1, .text "name", .text t.name]⟩]
      else []
    (.ok (ts ++ [(e.1, t)]), acc.2 ++ note)

/-- Builds the accepted tables in name order. -/
def instantiate (h : Hub) : Except String (List (String × Table)) × List Log.Record :=
  h.accepted.foldl buildStep (.ok [], [])

/-- The options of a load: the hub's default setters, then the request's own. -/
def loadOptions (h : Hub) (req : Request) : Load.Options :=
  Load.Options.ofSetters (h.settings.defaults ++ req.setters)

/-- What a load does once every table has finished its own load: runs the cross-table hooks,
then publishes the snapshot, the state and the batch event; its result and its trail. -/
def settle (h : Hub) (req : Request) (stamp : Stamp) (logs0 : List Log.Record) (loaded : Pass) :
    Hub × Except String (Option Fault) × Trail :=
  let p := crossAll loaded
  let failures := aggregate p.reports
  let state : State := if failures.isSome then .failed else .ready
  let report : Report := ⟨stamp.session, req.dir, req.format, state, stamp.startedAt,
    stamp.loadNanos p.tables.length, p.reports⟩
  let (originals, snapLogs) :=
    if h.settings.mutation.isSome then canonicalize p.tables else ([], [])
  let batch := LoadEvent.batch stamp.session report.failed report.tables.length
  let snap : Snapshot := ⟨p.tables, failures, report, originals⟩
  let h' : Hub := { h with
    state := state
    current := some snap
    broker := p.broker.publish batch.type batch }
  let fields : List Log.Value :=
    [.text "session", .text stamp.session, .text "dir", .text req.dir, .text "tables",
      .int p.tables.length]
  let finish : Log.Record :=
    if failures.isSome then
      ⟨.warn, "hub", "load finished with failures",
        fields ++ [.text "failed", .int report.failed, .text "duration", .duration report.nanos]⟩
    else ⟨.info, "hub", "load finished", fields ++ [.text "duration", .duration report.nanos]⟩
  let children := p.spans.map (fun s => { s with parent := some p.spans.length })
  let root : Trace.Span :=
    ⟨"hub.Load", [("confhub.session_id", .text stamp.session), ("confhub.dir", .text req.dir),
      ("confhub.format", .text req.format.name), ("confhub.tables", .int p.tables.length),
      ("confhub.failed", .int report.failed)],
      (if failures.isSome then .error "one or more tables failed" else .unset), [], [], none⟩
  (h', .ok failures, ⟨logs0 ++ p.logs ++ snapLogs ++ [finish], children ++ [root]⟩)

/-- One load cycle: the hub after it, its result (the aggregate fault, or an abrupt stop),
and its trail. -/
def cycle (h : Hub) (fs : Files.Tree) (req : Request) (stamp : Stamp) (ctx : Context) :
    Hub × Except String (Option Fault) × Trail :=
  let h := { h with state := .loading }
  match h.instantiate with
  | (.error v, logs) => (h, .error v, ⟨logs, []⟩)
  | (.ok tables, logs0) =>
    h.settle req stamp logs0
      (loadAll fs req.dir req.format (h.loadOptions req) ctx stamp.tableNanos stamp.session
        tables h.broker)

/-- Loads from a directory in a format with the given setters, remembering the request for
reloads. -/
def load (h : Hub) (fs : Files.Tree) (req : Request) (stamp : Stamp) (ctx : Context) :
    Hub × Except String (Option Fault) × Trail :=
  { h with last := some req }.cycle fs req stamp ctx

/-- Repeats the last load; before any load, fails with `hub has not loaded`. -/
def reload (h : Hub) (fs : Files.Tree) (stamp : Stamp) (ctx : Context) :
    Hub × Except String (Option Fault) × Trail :=
  match h.last with
  | none => (h, .ok (some (.sentinel .notLoaded)), ⟨[], []⟩)
  | some req => h.cycle fs req stamp ctx

end ConfigTables.Hub
