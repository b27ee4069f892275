import ConfigTables.Journal.Db
import ConfigTables.Hub.Report
import ConfigTables.Files.Tree
import ConfigTables.Json.Scan
import ConfigTables.Log.Record
import ConfigTables.Text.Utf8
/-!
# The load journal

The journal records one session per load: its id, directory, format, final state, table counts,
start time and duration, and one row per table with its file, duration, load kind and error text.
It keeps them in the database of `ConfigTables.Journal.Db`.

* Recording a session runs as one transaction: clear the session's id (its table rows go with
  it), insert its row, insert its tables' rows. A report without an id is refused before the
  database is asked; a statement that breaks a key (a table named twice) rolls the whole record
  back.
* Sessions are listed newest first, sessions that started at the same instant by id; pruning
  deletes every session outside the newest ones in that order, with their tables.

A journal lives in a file. An open journal has two companion files beside it, the file's name
with `-wal` and with `-shm` appended, which go away when it is closed.
-/

namespace ConfigTables.Journal

/-- The entry of a hub report, durations in whole microseconds. -/
def Entry.ofReport (r : Hub.Report) : Entry :=
  ⟨⟨r.sessionId, r.dir, r.format.name, r.state.name, r.tables.length, r.failed, r.startedAt.getD 0,
      r.nanos.tdiv 1000⟩,
    r.tables.map fun t => ⟨t.name, t.path, t.nanos.tdiv 1000, (t.kind.map (·.name)).getD "",
      (t.fault.map (·.message)).getD ""⟩⟩

/-! ## Sessions as JSON -/

/-- A line as JSON. -/
def Line.toJson (l : Line) : Json :=
  .object [("name", .string l.name), ("path", .string l.path), ("duration_us", .int l.micros),
    ("kind", .string l.kind), ("error", .string l.error), ("ok", .bool l.ok)]

/-- A session as JSON. -/
def Session.toJson (s : Session) : Json :=
  .object [("id", .string s.id), ("dir", .string s.dir), ("format", .string s.format),
    ("state", .string s.state), ("total", .nat s.total), ("failed", .nat s.failed),
    ("started_at_ns", .int s.startedAt), ("duration_us", .int s.micros)]

/-- A table row as JSON: its session's id and its table. -/
def TableRow.toJson (r : TableRow) : Json :=
  .object [("session_id", .string r.sessionId), ("table", r.line.toJson)]

/-- The text of a member of an object. -/
def textAt (v : Json) (k : String) : String :=
  match v.get? k with
  | some (.string s) => s
  | _ => ""

/-- The digits of a whole number in decimal, none unless every character is a digit. -/
def digitsValue? (ds : List Char) : Option Nat :=
  if ds ≠ [] ∧ ds.all Char.isDigit then some (Nat.ofDigitChars 10 ds 0) else none

/-- The whole number a number text writes in decimal, with an optional minus sign; none for a
fraction, an exponent or any other text. -/
def wholeOfText? (t : String) : Option Int :=
  match t.toList with
  | '-' :: ds => (digitsValue? ds).map (fun n => -(n : Int))
  | ds => (digitsValue? ds).map (fun n => (n : Int))

/-- The whole number of a member of an object. -/
def intAt (v : Json) (k : String) : Int :=
  match v.get? k with
  | some (.number t) => (wholeOfText? t).getD 0
  | _ => 0

/-- The items of a member of an object. -/
def itemsAt (v : Json) (k : String) : List Json :=
  match v.get? k with
  | some (.array xs) => xs
  | _ => []

/-- A line read back. -/
def Line.ofJson (v : Json) : Line :=
  ⟨textAt v "name", textAt v "path", intAt v "duration_us", textAt v "kind", textAt v "error"⟩

/-- A session read back. -/
def Session.ofJson (v : Json) : Session :=
  ⟨textAt v "id", textAt v "dir", textAt v "format", textAt v "state", (intAt v "total").toNat,
    (intAt v "failed").toNat, intAt v "started_at_ns", intAt v "duration_us"⟩

/-- A table row read back. -/
def TableRow.ofJson (v : Json) : TableRow :=
  ⟨textAt v "session_id", Line.ofJson ((v.get? "table").getD .null)⟩

/-! ## The database file -/

/-- The contents of a journal file: the rows of both tables. -/
def Db.encode (db : Db) : List UInt8 :=
  Text.Utf8.encode (Json.compact .plain (.object [
    ("sessions", .array (db.sessions.map Session.toJson)),
    ("session_tables", .array (db.tables.map TableRow.toJson))]))

/-- A database read back from its file; an empty file holds the empty database, and rows whose
keys do not hold are no database. -/
def Db.decode (bs : List UInt8) : Option Db :=
  if bs.isEmpty then some .empty
  else
    match Json.parseDocument bs with
    | .ok v => Db.ofRows? ((itemsAt v "sessions").map Session.ofJson)
        ((itemsAt v "session_tables").map TableRow.ofJson)
    | .error _ => none

/-- A journal in use: its file, its database, and whether it is still open. Every operation on
a closed journal fails, naming the step that failed. -/
structure Handle where
  path : String
  db : Db
  live : Bool
  deriving Inhabited

/-- The companion files of an open journal. -/
def companions (path : String) : List String := [path ++ "-shm", path ++ "-wal"]

/-- Opens the journal at a path, making its directory; an existing non-empty file is first
copied beside itself with `.bak` appended, and a copy that cannot be written is only
logged. Gives the handle, the tree and the records logged. -/
def Handle.openAt (fs : Files.Tree) (path : String) :
    Except String (Handle × Files.Tree × List Log.Record) := do
  let fs ← (fs.mkdirAll (Files.Path.dir path)).mapError
    (fun e => "creating journal directory: " ++ e.message)
  let old := match fs.find path with
    | .ok (.file d) => some d
    | _ => none
  let (fs, logs) : Files.Tree × List Log.Record := match old with
    | some d =>
      if d.isEmpty then (fs, [])
      else
        match fs.write (path ++ ".bak") d with
        | .ok fs => (fs, [])
        | .error e => (fs, [⟨.warn, "journal", "Pre-migration backup failed",
            [.text "path", .text path, .text "error", .failure e.message]⟩])
    | none => (fs, [])
  let db ← match Db.decode (old.getD []) with
    | some db => .ok db
    | none => .error "opening journal: sqlite3: file is not a database"
  let fs ← (fs.write path db.encode).mapError (fun e => "opening journal: " ++ e.message)
  let fs := (companions path).foldl (fun fs p => (fs.write p []).toOption.getD fs) fs
  pure (⟨path, db, true⟩, fs, logs ++ [⟨.debug, "journal", "Journal opened", [.text "path", .text path]⟩])

namespace Handle

/-- The failure of a step on a closed journal. -/
def closedFault (step : String) : String := step ++ ": sql: database is closed"

/-- Runs a read on an open journal. -/
def reading (h : Handle) (step : String) (f : Db → α) : Except String α :=
  if h.live then .ok (f h.db) else .error (closedFault step)

/-- Keeps a database as the journal's and writes it to the journal's file. -/
def store (h : Handle) (fs : Files.Tree) (db : Db) : Handle × Files.Tree :=
  ({ h with db := db }, (fs.write h.path db.encode).toOption.getD fs)

/-- The log record of a recorded session. -/
def recordedLog (e : Entry) : Log.Record :=
  ⟨.debug, "journal", "Recorded session", [.text "session", .text e.session.id,
    .text "tables", .int e.lines.length, .text "failed", .int e.session.failed]⟩

/-- Records a session. A report without an id is refused before the database is asked, and a
closed journal cannot begin the transaction; otherwise the handle keeps the database the
transaction leaves, its file written on a commit, with the log record or the failure that rolled
the transaction back. -/
def recordTx (h : Handle) (fs : Files.Tree) (e : Entry) :
    Handle × Files.Tree × Except String Log.Record :=
  if e.session.id = "" then (h, fs, .error "journal: report has no session id")
  else if !h.live then (h, fs, .error (closedFault "begin"))
  else
    match h.db.record e with
    | (db, none) => let (h, fs) := h.store fs db; (h, fs, .ok (recordedLog e))
    | (db, some m) => ({ h with db := db }, fs, .error m)

/-- Records a session: the handle, the tree and the log record, or the failure. -/
def record (h : Handle) (fs : Files.Tree) (e : Entry) :
    Except String (Handle × Files.Tree × Log.Record) :=
  match h.recordTx fs e with
  | (h, fs, .ok r) => .ok (h, fs, r)
  | (_, _, .error m) => .error m

/-- The sessions, newest first; a positive limit keeps that many. -/
def recent (h : Handle) (limit : Int) : Except String (List Session) :=
  h.reading "listing sessions" (·.select (listQuery (if limit > 0 then some limit.toNat else none)))

/-- The session with an id. -/
def session (h : Handle) (id : String) : Except String Session :=
  (h.reading "reading session" (·.select (sessionQuery id))).bind fun
    | s :: _ => .ok s
    | [] => .error (Sentinel.sessionNotFound.text ++ ": " ++ id)

/-- The tables of a session in name order. -/
def lines (h : Handle) (id : String) : Except String (List Line) :=
  h.reading "listing tables" (·.selectTables (tablesQuery id))

/-- Keeps the `keep` newest sessions (none for a negative count): the handle, the tree, the
number of sessions removed and the log record made when any were. -/
def prune (h : Handle) (fs : Files.Tree) (keep : Int) :
    Except String (Handle × Files.Tree × Nat × List Log.Record) :=
  if !h.live then .error (closedFault "pruning sessions")
  else
    let keep := if keep < 0 then 0 else keep.toNat
    match h.db.exec (pruneStmt keep) with
    | .ok (db, n) =>
      let (h, fs) := h.store fs db
      .ok (h, fs, n, if n > 0 then
        [⟨.info, "journal", "Pruned sessions", [.text "removed", .int n, .text "kept", .int keep]⟩]
        else [])
    | .error m => .error ("pruning sessions: " ++ m)

/-- Closes a journal: its companion files go. Closing a closed journal does nothing. -/
def close (h : Handle) (fs : Files.Tree) : Handle × Files.Tree :=
  if !h.live then (h, fs)
  else ({ h with live := false }, (companions h.path).foldl (fun fs p => (fs.remove p).toOption.getD fs) fs)

/-- Closes a journal and opens its file again. -/
def reopen (h : Handle) (fs : Files.Tree) : Except String (Handle × Files.Tree × List Log.Record) :=
  let (h, fs) := h.close fs
  openAt fs h.path

end Handle

end ConfigTables.Journal
