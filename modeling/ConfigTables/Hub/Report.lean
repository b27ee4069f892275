import ConfigTables.Fault
import ConfigTables.Format
/-!
# Load reports

A hub is idle until its first load, loading while one runs, and then ready or failed: failed
when any table failed. One load's report names the directory and format, its final state
and, for every table in name order, the file it was read from (empty when none was resolved)
and its fault.
-/

namespace ConfigTables.Hub

/-- Where a hub is in its load cycle. -/
inductive State where
  | idle
  | loading
  | ready
  | failed
  deriving Repr, DecidableEq, Inhabited

/-- The word naming a state. -/
def State.name : State → String
  | .idle => "idle"
  | .loading => "loading"
  | .ready => "ready"
  | .failed => "failed"

/-- The state a code stands for: 0 idle, 1 loading, 2 ready, 3 failed. -/
def State.ofCode? : Int → Option State
  | 0 => some .idle
  | 1 => some .loading
  | 2 => some .ready
  | 3 => some .failed
  | _ => none

/-- The word naming the state a code stands for; `unknown` for a code that stands for
none. -/
def State.codeName (n : Int) : String := ((State.ofCode? n).map State.name).getD "unknown"

/-- One table's outcome within a load. -/
structure TableReport where
  name : String
  path : String
  fault : Option Fault
  /-- How long the table took, in nanoseconds. -/
  nanos : Int
  deriving Repr, Inhabited

/-- Whether a table loaded and its hooks succeeded. -/
def TableReport.ok (t : TableReport) : Bool := t.fault.isNone

/-- The kind of a table's load failure, or none for success and for faults that are not
load failures. -/
def TableReport.kind (t : TableReport) : Option LoadKind :=
  t.fault.bind Fault.loadKind?

/-- The report of one load. -/
structure Report where
  sessionId : String
  dir : String
  format : Format
  state : State
  /-- When the load started, in nanoseconds since the epoch; none for the zero time. -/
  startedAt : Option Int
  /-- How long the load took, in nanoseconds. -/
  nanos : Int
  /-- The tables, by name in ascending order. -/
  tables : List TableReport
  deriving Repr, Inhabited

/-- The number of tables that failed. -/
def Report.failed (r : Report) : Nat := (r.tables.filter (!·.ok)).length

/-- The session id a report carries when none is wanted in output: all zero digits. -/
def nilSession : String := "00000000-0000-0000-0000-000000000000"

/-- What a load takes from its surroundings, as the hub keeps no clock of its own: the
session id, when the load starts, and how long reading one table takes, in nanoseconds. -/
structure Stamp where
  session : String
  startedAt : Option Int
  tableNanos : Int
  deriving Repr, Inhabited

/-- The stamp of a load placed nowhere in time: the nil session, the zero time, no
durations. -/
def Stamp.unplaced : Stamp := ⟨nilSession, none, 0⟩

/-- How long a whole load of some tables takes under a stamp: one table's time more than
the tables together. -/
def Stamp.loadNanos (s : Stamp) (tables : Nat) : Int := s.tableNanos * (tables + 1)

end ConfigTables.Hub
