import ConfigTables.Payload
import ConfigTables.Ordered
import ConfigTables.Fault
/-!
# The built-in tables

Four tables come with the library: heroes, items and tasks (lists of rows with a whole-number
id) and a theme (a free-form message).

After its file is read, a row table indexes its rows by id in row order. Indexing stops at the
first absent row (`row <i>: null row`) or at the first id seen twice (`duplicate hero id
<id>`); by then the repeated id already points at the later row. The item table also groups
its rows by type. Once every table of a load is read, the task table looks up the reward
items of each task in the item table's index: a missing item is reported (`task <id> reward:
ItemConf: key <id>: not found`), the rewards found are kept.

Indexes and groups hold row positions, so a row changed in place is seen through them.
-/

namespace ConfigTables

/-- The built-in table types. -/
inductive TableType where
  | heroConf
  | itemConf
  | taskConf
  | themeConf
  deriving Repr, DecidableEq, Inhabited

namespace TableType

/-- The name of a table type, which is also its file stem and registry name. -/
def name : TableType → String
  | heroConf => "HeroConf"
  | itemConf => "ItemConf"
  | taskConf => "TaskConf"
  | themeConf => "ThemeConf"

/-- The table type with a given name. -/
def ofName? : String → Option TableType
  | "HeroConf" => some heroConf
  | "ItemConf" => some itemConf
  | "TaskConf" => some taskConf
  | "ThemeConf" => some themeConf
  | _ => none

/-- Every built-in table type, in name order. -/
def all : List TableType := [heroConf, itemConf, taskConf, themeConf]

/-- The record a row table's file holds. -/
def document? : TableType → Option Record
  | heroConf => some .heroes
  | itemConf => some .items
  | taskConf => some .tasks
  | themeConf => none

/-- The record of one row. -/
def row? : TableType → Option Record
  | heroConf => some .hero
  | itemConf => some .item
  | taskConf => some .task
  | themeConf => none

/-- The payload of a table with nothing loaded. -/
def blank : TableType → Payload
  | themeConf => .message []
  | t => match t.document? with
    | some r => Payload.ofRecord r
    | none => .none

/-- The word for a row in duplicate-id faults. -/
def rowWord : TableType → String
  | heroConf => "hero"
  | itemConf => "item"
  | taskConf => "task"
  | themeConf => "theme"

end TableType

/-- The rows of a row table's payload, in order; an absent row is `none`. -/
def Payload.rows : Payload → List (Option (List Datum))
  | .record _ (.list (some xs) :: _) => xs.map fun
    | .ref (some (.record fs)) => some fs
    | _ => Option.none
  | _ => []

/-- The number of rows of a row table's payload. -/
def Payload.rowCount (p : Payload) : Nat := p.rows.length

/-- The whole number in a row's field. -/
def fieldInt (fs : List Datum) (i : Nat) : Int :=
  match fs[i]? with
  | some (.int n) => n
  | _ => 0

/-- The text in a row's field. -/
def fieldText (fs : List Datum) (i : Nat) : String :=
  match fs[i]? with
  | some (.text s) => s
  | _ => ""

/-- The whole numbers in a row's list field. -/
def fieldInts (fs : List Datum) (i : Nat) : List Int :=
  match fs[i]? with
  | some (.list (some xs)) => xs.map fun
    | .int n => n
    | _ => 0
  | _ => []

/-- The fault of an absent row. -/
def nullRowFault (i : Nat) : Fault := .wrap ("row " ++ toString i ++ ": ") (.sentinel .nullRow) ""

/-- The fault of a key a table does not hold. -/
def keyFault (table key : String) : Fault :=
  .wrap (table ++ ": key " ++ key ++ ": ") (.sentinel .rowNotFound) ""

/-- The indexes of a row table: row position by id, and for items, row positions by type. -/
structure RowIndex where
  byId : Index Int Nat
  byType : Group String Nat
  deriving Repr, Inhabited

/-- No rows indexed. -/
def RowIndex.empty : RowIndex := ⟨Index.empty, Group.empty⟩

/-- Indexes rows from position `i` on, stopping at the first absent row or repeated id. -/
def RowIndex.build (t : TableType) : Nat → RowIndex → List (Option (List Datum)) → RowIndex × Option Fault
  | _, acc, [] => (acc, none)
  | i, acc, none :: _ => (acc, some (nullRowFault i))
  | i, acc, some fs :: rest =>
    let id := fieldInt fs 0
    let (byId, replaced) := acc.byId.put id i
    if replaced then
      ({ acc with byId := byId }, some (.text ("duplicate " ++ t.rowWord ++ " id " ++ toString id)))
    else
      let byType := if t = .itemConf then acc.byType.add (fieldText fs 2) i else acc.byType
      RowIndex.build t (i + 1) ⟨byId, byType⟩ rest

/-- The row positions of the reward items of every task, by task id, from the item table's
index; and the faults of rewards that are not there. -/
def rewardsOf (tasks : List (Option (List Datum))) (items : Index Int Nat) :
    Group Int Nat × List Fault :=
  tasks.foldl (fun (acc : Group Int Nat × List Fault) row =>
    match row with
    | none => acc
    | some fs =>
      let tid := fieldInt fs 0
      (fieldInts fs 2).foldl (fun (acc : Group Int Nat × List Fault) rid =>
        match items.get? rid with
        | some pos => (acc.1.add tid pos, acc.2)
        | none => (acc.1, acc.2 ++ [.wrap ("task " ++ toString tid ++ " reward: ")
            (keyFault "ItemConf" (toString rid)) ""])) acc) (Group.empty, [])

/-- Joins faults: none for no fault. -/
def joinFaults : List Fault → Option Fault
  | [] => none
  | fs => some (.join fs)

end ConfigTables
