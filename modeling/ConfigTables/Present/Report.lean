import ConfigTables.Journal
import ConfigTables.Present.Grid
import ConfigTables.Hub.Registry
import ConfigTables.Json.Value
import ConfigTables.Number.Binary64
import ConfigTables.Time.Civil
/-!
# Presenting load reports

Reports, registrations and recorded sessions are shown in three ways:

* Markdown: a heading with the session id, the directory, format, state, counts and duration
  as a list, a table of the tables, and for every failed table its error in a code fence.
* JSON: the same facts as an indented document (durations in milliseconds, the start time in
  RFC 3339), kinds and errors left out when empty.
* Plain text tables for the terminal: a summary line, a grid with the first line of each
  error cut to a third of the width (at least sixteen cells), then every error in full,
  wrapped to the width less four and indented.

Durations are printed in milliseconds with two decimals, rounded to even on the exact
binary value (`1.005` prints `1.00`). A table's status is `ok`, its load kind when it
failed to load, or `failed`.

Recorded sessions are shown like reports: a listing of sessions, newest first, and one
session with its tables. Durations are kept in whole microseconds and shown in milliseconds:
the microseconds as a double, divided by a thousand.
-/

namespace ConfigTables.Present

/-- One table of a report as shown. -/
structure TableLine where
  name : String
  path : String
  millis : Binary64
  ok : Bool
  kind : String
  error : String
  deriving Repr, Inhabited

/-- A report as shown. -/
structure ReportView where
  sessionId : String
  dir : String
  format : String
  state : String
  /-- The start time in nanoseconds since the epoch; none for the zero time. -/
  startedAt : Option Int
  millis : Binary64
  total : Int
  failed : Int
  tables : List TableLine
  deriving Repr, Inhabited

/-- A registered table as listed: its name, the type of its payload and its file, if
asked for. -/
structure Registration where
  name : String
  payload : String
  path : String
  deriving Repr, Inhabited

/-- A recorded session as listed. -/
structure SessionLine where
  id : String
  dir : String
  format : String
  state : String
  startedAt : Option Int
  millis : Binary64
  total : Int
  failed : Int
  deriving Repr, Inhabited

/-- Milliseconds of a count of microseconds: the count rounded to a double, then divided by a
thousand with correct rounding. -/
def millisOfMicros (us : Int) : Binary64 :=
  let x := Binary64.ofInt us
  let (num, den) := x.ratio
  Binary64.ofRatio (us < 0) num (den * 1000)

/-- A hub's report as shown: durations in whole microseconds, shown in milliseconds. -/
def ReportView.ofReport (r : Hub.Report) : ReportView :=
  ⟨r.sessionId, r.dir, r.format.name, r.state.name, r.startedAt, millisOfMicros (r.nanos.tdiv 1000),
    r.tables.length, r.failed, r.tables.map fun t =>
      ⟨t.name, t.path, millisOfMicros (t.nanos.tdiv 1000), t.ok, (t.kind.map (·.name)).getD "",
        (t.fault.map (·.message)).getD ""⟩⟩

/-- The registered tables in name order, with the type of a fresh payload (empty for a
constructor that gives no table) and, when a path function is given, each file. -/
def registrations (r : Hub.Registry) (pathOf : Option (String → String)) : List Registration :=
  r.entries.map fun (name, m) =>
    ⟨name, (match m with
      | .table k => (Hub.Table.fresh k).message.typeName
      | .absent => ""), (pathOf.map (· name)).getD ""⟩

/-- Milliseconds with two decimals. -/
def formatMs (x : Binary64) : String := x.fixed 2 ++ "ms"

/-- The status word of a table. -/
def status (ok : Bool) (kind : String) : String :=
  if ok then "ok" else if kind = "" then "failed" else kind

/-- The id up to its first dash, unless the dash comes first. -/
def shortId (id : String) : String :=
  match id.toList.idxOf? '-' with
  | some i => if i > 0 then String.ofList (id.toList.take i) else id
  | none => id

/-- The first line of a text. -/
def firstLine (s : String) : String := (linesOf s).headD ""

/-! ## Markdown -/

/-- A report as a Markdown document. -/
def ReportView.markdown (r : ReportView) : String :=
  let head := "# Load " ++ r.sessionId ++ "\n\n" ++
    "- **Dir:** `" ++ r.dir ++ "`\n" ++
    "- **Format:** " ++ r.format ++ "\n" ++
    "- **State:** " ++ r.state ++ "\n" ++
    "- **Tables:** " ++ toString (r.total - r.failed) ++ " ok, " ++ toString r.failed ++ " failed\n" ++
    "- **Duration:** " ++ formatMs r.millis ++ "\n\n" ++
    "| Table | Status | Duration | Path |\n|---|---|---|---|\n"
  let rows := String.join (r.tables.map fun t =>
    "| " ++ t.name ++ " | " ++ status t.ok t.kind ++ " | " ++ formatMs t.millis ++ " | `" ++ t.path ++ "` |\n")
  let errors :=
    if r.failed > 0 then
      "\n## Errors\n\n" ++ String.join ((r.tables.filter (!·.ok)).map fun t =>
        "### " ++ t.name ++ "\n\n```\n" ++ t.error ++ "\n```\n\n")
    else ""
  head ++ rows ++ errors

/-! ## JSON -/

/-- A time as JSON shows it: RFC 3339 with nanoseconds, the zero time as year one. -/
def timeJson : Option Int → Json
  | some ns => .string (Time.rfc3339Nano ns)
  | none => .string "0001-01-01T00:00:00Z"

/-- A float as JSON shows it. -/
def floatJson (x : Binary64) : Json := .number x.formatData

/-- A report as JSON. -/
def ReportView.toJson (r : ReportView) : Json :=
  .object [("session_id", .string r.sessionId), ("dir", .string r.dir), ("format", .string r.format),
    ("state", .string r.state), ("started_at", timeJson r.startedAt), ("duration_ms", floatJson r.millis),
    ("total", .int r.total), ("failed", .int r.failed),
    ("tables", .array (r.tables.map fun t =>
      .object ([("name", .string t.name), ("path", .string t.path), ("duration_ms", floatJson t.millis),
        ("ok", .bool t.ok)] ++ (if t.kind = "" then [] else [("kind", .string t.kind)]) ++
        (if t.error = "" then [] else [("error", .string t.error)]))))]

/-- Registrations as JSON. -/
def registrationsJson (rs : List Registration) : Json :=
  .array (rs.map fun r => .object ([("name", .string r.name), ("payload", .string r.payload)] ++
    (if r.path = "" then [] else [("path", .string r.path)])))

/-- Sessions as JSON. -/
def sessionsJson (ss : List SessionLine) : Json :=
  .array (ss.map fun s => .object [("id", .string s.id), ("dir", .string s.dir), ("format", .string s.format),
    ("state", .string s.state), ("started_at", timeJson s.startedAt), ("duration_ms", floatJson s.millis),
    ("total", .int s.total), ("failed", .int s.failed)])

/-- A JSON document as the formatter writes it: indented by two blanks, ending in a line
feed. -/
def document (j : Json) : String := Json.indented Json.StringStyle.data "  " "" j ++ "\n"

/-! ## Terminal tables -/

/-- The width used when none is given. -/
def defaultWidth : Nat := 100

/-- A requested width, the default for zero or less. -/
def widthOf (w : Int) : Nat := if w ≤ 0 then defaultWidth else w.toNat

/-- A report as terminal text at a width. -/
def ReportView.render (r : ReportView) (width : Nat) : String :=
  let summary := block ("Load " ++ shortId r.sessionId) ++ "  " ++ r.dir ++ "  format=" ++ r.format ++
    "  state=" ++ r.state ++ "  " ++ toString (r.total - r.failed) ++ "/" ++ toString r.total ++ " ok  " ++
    formatMs r.millis
  let errCell := max (width / 3) 16
  let rows := r.tables.map fun t =>
    [t.name, status t.ok t.kind, formatMs t.millis, t.path, truncate (firstLine t.error) errCell "…"]
  let table := grid ["TABLE", "STATUS", "DURATION", "PATH", "ERROR"] rows
  let out := summary ++ "\n" ++ table ++ "\n"
  if r.failed = 0 then out
  else
    out ++ "Errors\n" ++ String.join ((r.tables.filter (!·.ok)).map fun t =>
      "  " ++ block t.name ++ "\n" ++ indentLines (wordWrap t.error ((width : Int) - 4)) "    " ++ "\n")

/-- Registrations as terminal text. -/
def renderRegistrations (rs : List Registration) : String :=
  grid ["TABLE", "PAYLOAD", "PATH"] (rs.map fun r => [r.name, r.payload, r.path]) ++ "\n" ++
    toString rs.length ++ " tables registered\n"

/-- Sessions as terminal text, newest first as given. -/
def renderSessions (ss : List SessionLine) : String :=
  if ss.isEmpty then "No load sessions recorded\n"
  else
    grid ["SESSION", "STARTED", "STATE", "OK", "DURATION", "FORMAT", "DIR"] (ss.map fun s =>
      [shortId s.id, Time.dateTimeText (s.startedAt.getD (-62135596800000000000)), s.state,
        toString (s.total - s.failed) ++ "/" ++ toString s.total, formatMs s.millis, s.format, s.dir]) ++ "\n"

end ConfigTables.Present

namespace ConfigTables.Present

/-- A recorded session as listed. -/
def SessionLine.ofSession (s : Journal.Session) : SessionLine :=
  ⟨s.id, s.dir, s.format, s.state, some s.startedAt, millisOfMicros s.micros, s.total, s.failed⟩

/-- A recorded session and its tables as a report. -/
def ReportView.ofJournal (s : Journal.Session) (ls : List Journal.Line) : ReportView :=
  ⟨s.id, s.dir, s.format, s.state, some s.startedAt, millisOfMicros s.micros, s.total, s.failed,
    ls.map fun l => ⟨l.name, l.path, millisOfMicros l.micros, l.ok, l.kind, l.error⟩⟩

/-- The number of a member of an object as a double; zero when absent. -/
def floatAt (v : Json) (k : String) : Binary64 :=
  match v.get? k with
  | some (.number t) => (Binary64.ofLiteral? t).getD Binary64.zero
  | _ => Binary64.zero

/-- The truth of a member of an object; false when absent. -/
def truthAt (v : Json) (k : String) : Bool := v.get? k == some (.bool true)

/-- A report read back from its JSON form; the start time is not read. -/
def ReportView.ofJson (v : Json) : ReportView :=
  ⟨Journal.textAt v "session_id", Journal.textAt v "dir", Journal.textAt v "format", Journal.textAt v "state",
    none, floatAt v "duration_ms", Journal.intAt v "total", Journal.intAt v "failed",
    (Journal.itemsAt v "tables").map fun t => ⟨Journal.textAt t "name", Journal.textAt t "path",
      floatAt t "duration_ms", truthAt t "ok", Journal.textAt t "kind", Journal.textAt t "error"⟩⟩

end ConfigTables.Present
