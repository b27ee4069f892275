import ConfigTables.Tables
import ConfigTables.Load.Message
import ConfigTables.Log.Record
import ConfigTables.Hub.Report
/-!
# Live tables

A live table is one instance of a table kind: its payload, the file of its last load attempt
(empty until one was resolved), whether a load has succeeded, and what its hooks built. A
kind is one of the built-in table types or a scripted table, whose steps are given: scripted
tables show how the hub treats tables that fail, stop abruptly, or read their siblings.

A table's steps are its load, then (after a successful load) its own hook, then, once every
table of a load has finished, its cross-table hook against a view of all the new tables.
Every step ends in an `Outcome`: done, failed with a fault, or stopped abruptly with a value.
-/

namespace ConfigTables.Hub

/-- How a step ended: done, failed, or stopped abruptly with a value. -/
inductive Outcome where
  | done
  | failed (f : Fault)
  | panicked (value : String)
  deriving Repr, Inhabited

/-- What a scripted step does. -/
inductive Action where
  | succeed
  | fail (msg : String)
  | panic (value : String)
  deriving Repr, Inhabited, DecidableEq

/-- The outcome of a scripted step: a failure is a plain fault with the given text. -/
def Action.outcome : Action → Outcome
  | .succeed => .done
  | .fail msg => .failed (.text msg)
  | .panic v => .panicked v

/-- How a scripted table loads: by reading its file, or by a scripted step. -/
inductive LoadPlan where
  | decode
  | act (a : Action)
  deriving Repr, Inhabited

/-- What a scripted table's cross-table hook does: a scripted step, or recording what it
sees of the given siblings. -/
inductive CrossPlan where
  | act (a : Action)
  | observe (names : List String)
  deriving Repr, Inhabited

/-- A scripted table: its name, its steps, and what it shows instead of its data, if
anything. Its data is a list of texts. -/
structure Script where
  name : String
  load : LoadPlan
  afterLoad : Action
  afterAll : CrossPlan
  shown : Option Payload
  deriving Repr, Inhabited

/-- The kind of a table. -/
inductive Kind where
  | builtin (t : TableType)
  | scripted (s : Script)
  deriving Repr, Inhabited

namespace Kind

/-- The name of a table of this kind: also its file stem. -/
def name : Kind → String
  | builtin t => t.name
  | scripted s => s.name

/-- The word naming the kind: a table type's name, or `Fake` for scripted tables. -/
def typeName : Kind → String
  | builtin t => t.name
  | scripted _ => "Fake"

/-- The payload a table of this kind starts with, and each load reads into. -/
def blank : Kind → Payload
  | builtin t => t.blank
  | scripted _ => Payload.ofRecord .texts

end Kind

/-- What a cross-table hook saw: the names of the tables in its view, the view's state, and
the payload of each sibling it looked for (none for a name not in the view). -/
structure Observation where
  names : List String
  state : State
  siblings : List (String × Option Payload)
  deriving Repr, Inhabited

/-- A live table. -/
structure Table where
  kind : Kind
  data : Payload
  /-- The file of the last load attempt; empty if none was resolved. -/
  path : String
  /-- Whether a load has succeeded. -/
  loaded : Bool
  index : RowIndex
  /-- For the task table: the item rows of each task's rewards. -/
  rewards : Group Int Nat
  observed : Option Observation
  deriving Repr, Inhabited

/-- A table that has loaded nothing. -/
def Table.fresh (k : Kind) : Table := ⟨k, k.blank, "", false, RowIndex.empty, Group.empty, none⟩

/-- What a hub's constructor gives: a table of some kind, or none at all. -/
inductive Maker where
  | table (k : Kind)
  | absent
  deriving Repr, Inhabited

/-- A view of the tables of one load, as cross-table hooks see them. -/
structure View where
  state : State
  tables : List (String × Table)
  deriving Inhabited

/-- The names of a view's tables. -/
def View.names (v : View) : List String := v.tables.map (·.1)

/-- The table of a name in a view. -/
def View.get? (v : View) (name : String) : Option Table :=
  (v.tables.find? (·.1 = name)).map (·.2)

namespace Table

/-- The table's name. -/
def name (t : Table) : String := t.kind.name

/-- What the table shows as its payload: its data, unless a scripted table shows something
else. -/
def message (t : Table) : Payload :=
  match t.kind with
  | .scripted { shown := some p, .. } => p
  | _ => t.data

/-- Reads the table's file into a fresh payload, which becomes the table's data only on
success; the file is recorded either way. The read takes `nanos`. -/
def decode (t : Table) (fs : Files.Tree) (dir : String) (f : Format) (o : Load.TableOptions)
    (nanos : Int) : Table × Outcome × List Log.Record :=
  let name := t.name
  let path := Load.tablePath name dir f (some o)
  let t := { t with path := path }
  let r := Load.loadMessage fs t.kind.blank name dir f (some o)
  let patchLog : List Log.Record :=
    if r.patched.isEmpty then []
    else [⟨.debug, "load", "table patched", [.text "table", .text name, .text "patch",
      .text o.patch.name, .text "files", .texts r.patched]⟩]
  match r.step with
  | .filled p =>
    ({ t with data := p, loaded := true }, .done, patchLog ++
      [⟨.debug, "load", "table loaded", [.text "table", .text name, .text "path", .text path,
        .text "duration", .duration nanos]⟩])
  | .failed _ e =>
    let kind := match e.loadKind? with
      | some k => k.name
      | none => "unknown"
    (t, .failed e, [⟨.warn, "load", "table load failed", [.text "table", .text name, .text "kind",
      .text kind, .text "path", .text path, .text "error", .failure e.message]⟩])
  | .panicked v => (t, .panicked v, [])

/-- Runs the table's load, which takes `nanos`. -/
def load (t : Table) (fs : Files.Tree) (dir : String) (f : Format) (o : Load.TableOptions)
    (nanos : Int) : Table × Outcome × List Log.Record :=
  match t.kind with
  | .builtin _ => t.decode fs dir f o nanos
  | .scripted { load := .decode, .. } => t.decode fs dir f o nanos
  | .scripted { load := .act a, .. } => (t, a.outcome, [])

/-- Runs the table's own hook, if it has one: row tables rebuild their indexes from
scratch. -/
def afterLoad (t : Table) : Option (Table × Outcome) :=
  match t.kind with
  | .builtin .themeConf => none
  | .builtin ty =>
    let (index, fault) := RowIndex.build ty 0 RowIndex.empty t.data.rows
    some ({ t with index := index }, match fault with
      | some e => .failed e
      | none => .done)
  | .scripted s => some (t, s.afterLoad.outcome)

/-- Runs the table's cross-table hook against a view, if it has one. The task table finds
its reward items in the item table of the view, which must be the built-in item table
under its own name. -/
def afterAll (t : Table) (v : View) : Option (Table × Outcome) :=
  match t.kind with
  | .builtin .taskConf =>
    match v.get? TableType.itemConf.name with
    | some { kind := .builtin .itemConf, index := items, .. } =>
      let (rewards, faults) := rewardsOf t.data.rows items.byId
      some ({ t with rewards := rewards }, match joinFaults faults with
        | some e => .failed e
        | none => .done)
    | _ => some (t, .failed (.text (t.name ++ " requires " ++ TableType.itemConf.name)))
  | .builtin _ => none
  | .scripted { afterAll := .act a, .. } => some (t, a.outcome)
  | .scripted { afterAll := .observe names, .. } =>
    let seen : Observation :=
      ⟨v.names, v.state, names.map (fun n => (n, (v.get? n).map Table.message))⟩
    some ({ t with observed := some seen }, .done)

end Table

end ConfigTables.Hub
