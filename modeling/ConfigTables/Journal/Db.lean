/-!
# The journal's database

The journal keeps its sessions in a database of two tables.

* `sessions`: one row per recorded session, its id the primary key: directory, format, final
  state, table counts, start time and duration.
* `session_tables`: one row per table of a session: the session's id, which must be the id of a
  row of `sessions` (a foreign key whose rows go when that row goes, `ON DELETE CASCADE`), and
  the table's name, the pair being the primary key; then the table's file, duration, load kind
  and error text.

The journal reads the database by queries (`SessionQuery`, `TableQuery`), each with its own
`WHERE`, `ORDER BY` and `LIMIT` clauses, and changes it by four statements (`Stmt`). A statement
that would break a key fails and changes nothing, and a delete counts the session rows it
removed, not the table rows its cascade took with them. Recording a session runs several
statements in one transaction (`Tx`): they change a working copy, a commit keeps it, and a
failure rolls back to the database the transaction began on.
-/

namespace ConfigTables.Journal

/-- One table of a recorded session. -/
structure Line where
  name : String
  path : String
  micros : Int
  /-- The kind of the table's load failure, empty when it had none. -/
  kind : String
  /-- The table's error text, empty when it succeeded. -/
  error : String
  deriving Repr, Inhabited, BEq

/-- Whether a table of a session succeeded. -/
def Line.ok (l : Line) : Bool := l.error = ""

/-- A recorded session. -/
structure Session where
  id : String
  dir : String
  format : String
  state : String
  total : Nat
  failed : Nat
  /-- Nanoseconds since the epoch. -/
  startedAt : Int
  micros : Int
  deriving Repr, Inhabited, BEq

/-- A load as it is recorded: the session and its tables in report order. -/
structure Entry where
  session : Session
  lines : List Line
  deriving Repr, Inhabited, BEq

/-- A row of `session_tables`: a table of the session with the given id. -/
structure TableRow where
  sessionId : String
  line : Line
  deriving Repr, Inhabited, BEq

/-- The keys of a database's rows: session ids are distinct, the tables of a session have
distinct names, and every table row's session is there. -/
structure Keys (sessions : List Session) (tables : List TableRow) : Prop where
  ids : (sessions.map (·.id)).Nodup
  pairs : (tables.map fun r => (r.sessionId, r.line.name)).Nodup
  linked : ∀ r ∈ tables, r.sessionId ∈ sessions.map (·.id)

instance (sessions : List Session) (tables : List TableRow) : Decidable (Keys sessions tables) :=
  decidable_of_iff (_ ∧ _ ∧ _)
    ⟨fun ⟨a, b, c⟩ => ⟨a, b, c⟩, fun k => ⟨k.ids, k.pairs, k.linked⟩⟩

/-- The journal's database: the rows of `sessions` and of `session_tables`, each in the order
they were inserted, with their keys. -/
@[ext] structure Db where
  sessions : List Session
  tables : List TableRow
  keys : Keys sessions tables

/-- The database with no rows. -/
def Db.empty : Db := ⟨[], [], ⟨List.nodup_nil, List.nodup_nil, fun _ h => nomatch h⟩⟩

instance : Inhabited Db := ⟨.empty⟩

/-- The database of the given rows, when their keys hold. -/
def Db.ofRows? (sessions : List Session) (tables : List TableRow) : Option Db :=
  if h : Keys sessions tables then some ⟨sessions, tables, h⟩ else none

/-- Deleting sessions, with the table rows of their ids, keeps the keys. -/
theorem Keys.deleteWhere {ss : List Session} {ts : List TableRow} (k : Keys ss ts)
    (p : Session → Bool) :
    Keys (ss.filter fun s => !p s)
      (ts.filter fun r => !((ss.filter p).map (·.id)).contains r.sessionId) where
  ids := k.ids.sublist (List.filter_sublist.map _)
  pairs := k.pairs.sublist (List.filter_sublist.map _)
  linked r hr := by
    obtain ⟨hr, hkept⟩ := List.mem_filter.mp hr
    obtain ⟨s, hs, hid⟩ := List.mem_map.mp (k.linked r hr)
    -- the row's session was not deleted, or the row would have gone with it
    have hp : p s = false := by
      cases hps : p s
      · rfl
      · have hgone : s.id ∈ (ss.filter p).map (·.id) :=
          List.mem_map_of_mem (List.mem_filter.mpr ⟨hs, hps⟩)
        rw [hid] at hgone
        simp [hgone] at hkept
    exact List.mem_map.mpr ⟨s, List.mem_filter.mpr ⟨hs, by simp [hp]⟩, hid⟩

/-- A session row under a new id keeps the keys. -/
theorem Keys.insertSession {ss : List Session} {ts : List TableRow} (k : Keys ss ts) {s : Session}
    (hs : s.id ∉ ss.map (·.id)) : Keys (ss ++ [s]) ts where
  ids := by
    rw [List.map_append, List.nodup_append]
    refine ⟨k.ids, by simp, fun a ha b hb => ?_⟩
    simp only [List.map_cons, List.map_nil, List.mem_singleton] at hb
    subst hb
    exact fun h => hs (h ▸ ha)
  pairs := k.pairs
  linked r hr := by
    rw [List.map_append]
    exact List.mem_append_left _ (k.linked r hr)

/-- A table row under a new pair of session and name, whose session is there, keeps the keys. -/
theorem Keys.insertTable {ss : List Session} {ts : List TableRow} (k : Keys ss ts) {r : TableRow}
    (hpair : (r.sessionId, r.line.name) ∉ ts.map fun t => (t.sessionId, t.line.name))
    (hlink : r.sessionId ∈ ss.map (·.id)) : Keys ss (ts ++ [r]) where
  ids := k.ids
  pairs := by
    rw [List.map_append, List.nodup_append]
    refine ⟨k.pairs, by simp, fun a ha b hb => ?_⟩
    simp only [List.map_cons, List.map_nil, List.mem_singleton] at hb
    subst hb
    exact fun h => hpair (h ▸ ha)
  linked t ht := by
    rcases List.mem_append.mp ht with ht | ht
    · exact k.linked t ht
    · rw [List.mem_singleton.mp ht]
      exact hlink

/-! ## Ordering rows -/

/-- A value a row holds in a column that queries filter or sort on. -/
inductive Value where
  | int (n : Int)
  | text (s : String)
  deriving Repr, DecidableEq

/-- The database's order of values: integers by size, texts character by character (the
binary collation), every integer before every text. -/
def Value.lt : Value → Value → Bool
  | .int a, .int b => decide (a < b)
  | .int _, .text _ => true
  | .text _, .int _ => false
  | .text a, .text b => decide (a < b)

/-- A term of an `ORDER BY` clause: a column, ascending or descending. -/
structure Key (col : Type) where
  col : col
  desc : Bool

/-- Whether row `a` may come before row `b` under an `ORDER BY` clause: at the first key on
which they differ, `a` holds the smaller value (the larger, under a descending key); rows equal
on every key may come either way. -/
def orderLe {col α : Type} (get : col → α → Value) : List (Key col) → α → α → Bool
  | [], _, _ => true
  | k :: ks, a, b =>
    if get k.col a = get k.col b then orderLe get ks a b
    else if k.desc then (get k.col b).lt (get k.col a) else (get k.col a).lt (get k.col b)

/-- Rows in the order of an `ORDER BY` clause; rows equal on every key keep the order the
database met them in. -/
def orderBy {col α : Type} (get : col → α → Value) (keys : List (Key col)) (rows : List α) :
    List α :=
  rows.mergeSort (orderLe get keys)

/-- The columns of `sessions` that queries filter or sort on. -/
inductive SessionCol where
  | id
  | startedAt

/-- A session row's value in a column. -/
def Session.get : SessionCol → Session → Value
  | .id, s => .text s.id
  | .startedAt, s => .int s.startedAt

/-- The columns of `session_tables` that queries filter or sort on. -/
inductive TableCol where
  | sessionId
  | name

/-- A table row's value in a column. -/
def TableRow.get : TableCol → TableRow → Value
  | .sessionId, r => .text r.sessionId
  | .name, r => .text r.line.name

/-! ## Queries -/

/-- `SELECT … FROM sessions [WHERE id = ?] ORDER BY … [LIMIT ?]`. -/
structure SessionQuery where
  id? : Option String
  orderBy : List (Key SessionCol)
  limit : Option Nat

/-- `SELECT … FROM session_tables WHERE session_id = ? ORDER BY …`. -/
structure TableQuery where
  sessionId : String
  orderBy : List (Key TableCol)

/-- The session rows a query selects, in its order, cut to its limit. -/
def Db.select (db : Db) (q : SessionQuery) : List Session :=
  let rows := orderBy Session.get q.orderBy (db.sessions.filter fun s => q.id?.all (· = s.id))
  match q.limit with
  | some n => rows.take n
  | none => rows

/-- The tables of the session a query names, in its order. -/
def Db.selectTables (db : Db) (q : TableQuery) : List Line :=
  (orderBy TableRow.get q.orderBy (db.tables.filter (·.sessionId = q.sessionId))).map (·.line)

/-! ## Statements -/

/-- The statements that change the database. -/
inductive Stmt where
  /-- `DELETE FROM sessions WHERE id = ?` -/
  | deleteSession (id : String)
  /-- `DELETE FROM sessions WHERE id NOT IN (SELECT id FROM sessions …)` -/
  | deleteSessionsOutside (keep : SessionQuery)
  /-- `INSERT INTO sessions VALUES (…)` -/
  | insertSession (s : Session)
  /-- `INSERT INTO session_tables VALUES (…)` -/
  | insertTable (r : TableRow)

/-- The database's refusal of a second session row with one id. -/
def uniqueSessionFault : String :=
  "sqlite3: constraint failed: UNIQUE constraint failed: sessions.id"

/-- The database's refusal of a second table row with one session id and name. -/
def uniqueTableFault : String :=
  "sqlite3: constraint failed: UNIQUE constraint failed: session_tables.session_id, session_tables.name"

/-- The database's refusal of a table row whose session is not there. -/
def foreignKeyFault : String := "sqlite3: constraint failed: FOREIGN KEY constraint failed"

/-- Deletes the sessions a test picks and, by the cascade of `session_tables`' foreign key, the
table rows under their ids; the count is of the session rows deleted. -/
def Db.deleteWhere (db : Db) (p : Session → Bool) : Db × Nat :=
  (⟨db.sessions.filter (fun s => !p s),
      db.tables.filter (fun r => !((db.sessions.filter p).map (·.id)).contains r.sessionId),
      db.keys.deleteWhere p⟩,
    (db.sessions.filter p).length)

/-- Runs a statement: the database after it and the count of session rows it changed, or the
key it would break. -/
def Db.exec (db : Db) : Stmt → Except String (Db × Nat)
  | .deleteSession id => .ok (db.deleteWhere (·.id = id))
  | .deleteSessionsOutside q =>
    let kept := (db.select q).map (·.id)
    .ok (db.deleteWhere fun s => !kept.contains s.id)
  | .insertSession s =>
    if h : s.id ∈ db.sessions.map (·.id) then .error uniqueSessionFault
    else .ok (⟨db.sessions ++ [s], db.tables, db.keys.insertSession h⟩, 1)
  | .insertTable r =>
    if h : (r.sessionId, r.line.name) ∈ db.tables.map (fun t => (t.sessionId, t.line.name)) then
      .error uniqueTableFault
    else if h' : r.sessionId ∈ db.sessions.map (·.id) then
      .ok (⟨db.sessions, db.tables ++ [r], db.keys.insertTable h h'⟩, 1)
    else .error foreignKeyFault

/-! ## Transactions -/

/-- A transaction: the database it began on, and the working copy its statements change. -/
structure Tx where
  base : Db
  work : Db

/-- A transaction begun on a database. -/
def Db.begin (db : Db) : Tx := ⟨db, db⟩

/-- A committed transaction leaves its working copy. -/
def Tx.commit (tx : Tx) : Db := tx.work

/-- A rolled-back transaction leaves the database it began on. -/
def Tx.rollback (tx : Tx) : Db := tx.base

/-- Runs statements one after another on a transaction's working copy, each with the words its
failure is reported under; at the first failure, the error and the transaction as that
statement found it. -/
def Tx.run (tx : Tx) : List (String × Stmt) → Except (String × Tx) Tx
  | [] => .ok tx
  | (what, s) :: rest =>
    match tx.work.exec s with
    | .ok (w, _) => Tx.run { tx with work := w } rest
    | .error m => .error (what ++ ": " ++ m, tx)

/-! ## The journal's statements -/

/-- `SELECT … FROM sessions ORDER BY started_at DESC, id [LIMIT ?]`: the listing, newest
first. -/
def listQuery (limit : Option Nat) : SessionQuery :=
  ⟨none, [⟨.startedAt, true⟩, ⟨.id, false⟩], limit⟩

/-- `SELECT … FROM sessions WHERE id = ?`. -/
def sessionQuery (id : String) : SessionQuery := ⟨some id, [], none⟩

/-- `SELECT … FROM session_tables WHERE session_id = ? ORDER BY name`. -/
def tablesQuery (id : String) : TableQuery := ⟨id, [⟨.name, false⟩]⟩

/-- `DELETE FROM sessions WHERE id NOT IN (SELECT id FROM sessions ORDER BY started_at DESC,
id LIMIT ?)`: pruning to the newest `keep` sessions. -/
def pruneStmt (keep : Nat) : Stmt :=
  .deleteSessionsOutside ⟨none, [⟨.startedAt, true⟩, ⟨.id, false⟩], some keep⟩

/-- The statements that record a session: clear its id, insert its row, then one row for each
of its tables in report order. -/
def recordStmts (e : Entry) : List (String × Stmt) :=
  ("clearing session", .deleteSession e.session.id) ::
    ("inserting session", .insertSession e.session) ::
      e.lines.map fun l => ("inserting table " ++ l.name, .insertTable ⟨e.session.id, l⟩)

/-- Records a session in one transaction: the database after it, committed or rolled back,
and the failure that rolled it back. -/
def Db.record (db : Db) (e : Entry) : Db × Option String :=
  match db.begin.run (recordStmts e) with
  | .ok tx => (tx.commit, none)
  | .error (m, tx) => (tx.rollback, some m)

end ConfigTables.Journal
