import ConfigTables.Load.Options
import ConfigTables.Fault.Json
import ConfigTables.Hub.Core
/-!
# Reading a loaded hub

Queries read the last snapshot: before the first load there are no tables. Lookups on the
built-in tables go through the indexes their hooks built, which hold row positions, so a
row changed in place is seen through them. The task table's rewards are rows of the item
table registered under its own name.

Storing writes every accepted table under its registry name; a table that cannot be written
does not stop the others, and the faults are joined.

The mutation check compares each table's canonical text with the one taken right after the
load. A table whose text could not be taken then is never reported.

Events, reports, tables and rows of a hub are described as JSON objects. A fault is described
by `Fault.toJson`; an absent fault is `null`. A row is written in its record's shape.
-/

namespace ConfigTables.Hub


/-- The live tables by name; none before the first load. -/
def tables (h : Hub) : List (String × Table) :=
  (h.current.map (·.tables)).getD []

/-- The names of the live tables, in ascending order. -/
def names (h : Hub) : List String := h.tables.map (·.1)

/-- The live table of a name. -/
def get? (h : Hub) (name : String) : Option Table :=
  (h.tables.find? (·.1 = name)).map (·.2)

/-- The live table of a name, if it is the built-in table of a type. -/
def builtin? (h : Hub) (name : String) (ty : TableType) : Option Table :=
  match h.get? name with
  | some t => match t.kind with
    | .builtin ty' => if ty' = ty then some t else none
    | .scripted _ => none
  | none => none

/-- The aggregate fault of the last load, if a table failed. -/
def failures (h : Hub) : Option Fault := h.current.bind (·.failures)

/-- The report of the last load. -/
def report? (h : Hub) : Option Report := h.current.map (·.report)

/-- Puts a table back under its name. -/
def setTable (h : Hub) (name : String) (t : Table) : Hub :=
  { h with current := h.current.map (fun s =>
      { s with tables := s.tables.map (fun e => if e.1 = name then (name, t) else e) }) }


/-! ## Row lookups -/

namespace Table

/-- The rows at the given positions. -/
def rowsAt (t : Table) (ps : List Nat) : List (List Datum) :=
  ps.filterMap (fun i => (t.data.rows[i]?).bind (fun r => r))

/-- The rows in index order. -/
def indexedRows (t : Table) : List (List Datum) := t.rowsAt t.index.byId.values

/-- The row of an id, or the fault naming the table and the id. -/
def row (t : Table) (id : Int) : Except Fault (List Datum) :=
  match (t.index.byId.get? id).bind (fun i => (t.data.rows[i]?).bind (fun r => r)) with
  | some fs => .ok fs
  | none => .error (keyFault t.name (toString id))

/-- The item types in the order first seen. -/
def types (t : Table) : List String := t.index.byType.keys

/-- The rows of an item type. -/
def rowsOfType (t : Table) (ty : String) : List (List Datum) := t.rowsAt (t.index.byType.get ty)

/-- The value under a key of a message table, or the fault naming the table and the key. -/
def value (t : Table) (key : String) : Except Fault Message.Value :=
  match t.data with
  | .message o => match o.get? key with
    | some v => .ok v
    | none => .error (keyFault t.name key)
  | _ => .error (keyFault t.name key)

/-- The text under a key of a message table, or the fallback when there is none. -/
def textOr (t : Table) (key fallback : String) : String :=
  match t.value key with
  | .ok (.text s) => s
  | _ => fallback

/-- Changes a table in place: the name of row `index` of a row table, the key of a message
table (set to a text), or one more text in a scripted table. Also says whether it changed. -/
def mutate (t : Table) (index : Nat) (key value : String) : Table × Bool :=
  match t.kind, t.data with
  | .builtin .themeConf, .message o => ({ t with data := .message (o.set key (.text value)) }, true)
  | .builtin _, .record r (.list (some xs) :: rest) =>
    match xs[index]? with
    | some (.ref (some (.record fs))) =>
      let row := Datum.ref (some (.record (fs.set 1 (.text value))))
      ({ t with data := .record r (.list (some (xs.set index row)) :: rest) }, true)
    | _ => (t, false)
  | .scripted _, .record r (.list xs :: rest) =>
    ({ t with data := .record r (.list (some (xs.getD [] ++ [.text value])) :: rest) }, true)
  | _, _ => (t, false)

end Table

/-- The check period in milliseconds: a minute when none is set. -/
def Watch.period (w : Watch) : Nat := if w.intervalMs = 0 then 60000 else w.intervalMs


/-- The reward item rows of a task, from the item table registered under its own name. -/
def rewardRows (h : Hub) (tasks : Table) (id : Int) : List (List Datum) :=
  match h.builtin? TableType.itemConf.name .itemConf with
  | some items => items.rowsAt (tasks.rewards.get id)
  | none => []

/-! ## Storing -/

/-- Writes every live table the filter accepts to `<dir>/<name><ext>` on a device, each on the
tree the one before it left: the paths written, the joined faults of the tables that could not
be, and the new tree. -/
def store (h : Hub) (dev : Files.Device) (fs : Files.Tree) (dir : String) (f : Format)
    (accept : Filter) : Except Fault (List String × Option Fault × Files.Tree) :=
  match h.current with
  | none => .error (.sentinel .notLoaded)
  | some s =>
    let (paths, faults, fs) := s.tables.foldl
      (fun (acc : List String × List Fault × Files.Tree) (name, t) =>
        if !accept.accepts name then acc
        else match Load.storeMessage dev acc.2.2 t.message name dir f with
          | (fs', .ok path) => (acc.1 ++ [path], acc.2.1, fs')
          | (fs', .error e) => (acc.1, acc.2.1 ++ [e], fs')) ([], [], fs)
    .ok (paths, joinFaults faults, fs)

/-! ## The mutation check -/

/-- One table found changed: its name, its text after the load, and its text now (none if
it can no longer be written). -/
structure Change where
  name : String
  original : String
  current : Option String
  deriving Repr, Inhabited

/-- The tables whose canonical text changed since the load, by name. -/
def changes (h : Hub) : List Change :=
  match h.settings.mutation, h.current with
  | some _, some s =>
    let now := (canonicalize s.tables).1
    s.originals.filterMap fun (name, orig) =>
      let cur := (now.find? (·.1 = name)).map (·.2)
      if cur = some orig then none else some ⟨name, orig, cur⟩
  | _, _ => []

/-- One explicit check: the names of the tables that changed, and the changes the handler
recorded (none for a handler that only logs). -/
def checkMutations (h : Hub) : List String × List Change :=
  let cs := h.changes
  (cs.map (·.name), match h.settings.mutation with
    | some { handler := .recording, .. } => cs
    | _ => [])

/-- Runs the periodic check for `ms` milliseconds: it ends when the time is up, having
checked once per period; also the names the recording handler saw. Without a mutation check
it fails at once. -/
def runMutationCheck (h : Hub) (ms : Nat) : Fault × List String :=
  match h.settings.mutation with
  | none => (.sentinel .mutableCheckDisabled, [])
  | some w =>
    let seen :=
      if w.period ≤ ms ∧ w.handler = .recording then h.changes.map (·.name) else []
    (.sentinel .deadlineExceeded, seen)

/-! ## Events -/

/-- The table named by an event; empty for a batch event. -/
def eventTable : LoadEvent → String
  | .table _ n _ _ => n
  | .batch _ _ _ => ""

/-- Takes the events published since the last drain: table events ordered by table name
(in publishing order within a name), then batch events; none without events. -/
def drainEvents (h : Hub) : Option (List LoadEvent × List LoadEvent) × Hub :=
  if !h.settings.events then (none, h)
  else
    let ((evs, _), b) := h.broker.drain 0
    let all := evs.map (·.2)
    let tables := all.filter (fun e => match e with
      | .table _ _ _ _ => true
      | .batch _ _ _ => false)
    let batches := all.filter (fun e => match e with
      | .table _ _ _ _ => false
      | .batch _ _ _ => true)
    (some (tables.mergeSort (fun a b => decide (eventTable a ≤ eventTable b)), batches),
      { h with broker := b })


end ConfigTables.Hub

namespace ConfigTables.Hub

/-- An optional fault as JSON. -/
def faultJson (f : Option Fault) : Json := (f.map Fault.toJson).getD .null

/-- A load event as JSON: its type and its facts. -/
def LoadEvent.toJson : LoadEvent → Json
  | e@(.table _ t p f) => .object [("type", .string e.type), ("table", .string t), ("path", .string p),
      ("error", faultJson f)]
  | e@(.batch _ f t) => .object [("type", .string e.type), ("failed", .nat f), ("total", .nat t)]

/-- A report as JSON: directory, format, state, failures, and one object per table. -/
def Report.toJson (r : Report) : Json :=
  .object [("ok", .bool true), ("dir", .string r.dir), ("format", .string r.format.name),
    ("state", .string r.state.name), ("failed", .nat r.failed), ("tables", .array (r.tables.map fun t =>
      .object [("name", .string t.name), ("path", .string t.path), ("ok", .bool t.ok),
        ("kind", .string ((t.kind.map (·.name)).getD "")), ("error", faultJson t.fault)]))]

/-- A table as JSON: name, type, message, file, whether it loaded, and what its cross-table
hook saw. -/
def Table.toJson (t : Table) : Json :=
  let seen := match t.observed with
    | some w => [("observed", .object [("names", Json.strings w.names), ("state", .string w.state.name),
        ("siblings", .object (w.siblings.map fun (k, p) => (k, (p.map Load.payloadJson).getD .null)))])]
    | none => []
  .object ([("found", .bool true), ("name", .string t.name), ("type", .string t.kind.typeName),
    ("payload", Load.payloadJson t.message), ("path", .string t.path), ("loaded", .bool t.loaded)] ++ seen)

/-- A row of a record shape as JSON; `null` when the row does not fit the shape. -/
def rowJson (r : Record) (fs : List Datum) : Json :=
  (Datum.toJson (.record r) (.record fs)).toOption.getD .null

/-- A row found by key, or the fault of the lookup. -/
def foundRowJson (r : Record) : Except Fault (List Datum) → Json
  | .ok fs => .object [("found", .bool true), ("row", rowJson r fs)]
  | .error e => e.toJson

end ConfigTables.Hub
