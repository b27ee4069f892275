import Mathlib
import ConfigTables.Proofs.JsonText
import ConfigTables.Proofs.Ledger
import ConfigTables.Proofs.TreeFrame

/-!
# The journal store follows its ledger

A journal handle answers record, prune, listing, session, table and reopen calls. From a sound
handle (open, its file holding its database), every call is answered as
`Ledger.Step` answers it and leaves a sound handle behind; by induction over the calls a whole
run follows the ledger, and since the ledger's replies are determined, the journal's replies
are exactly the ledger's.

* §1 The file codec: a database read back from its file is the database written.
* §2 `Handle.Sound`, kept by stores, by writes and removals of the side files, and by closing
  and opening the file again.
* §3 `Handle.call`, one lemma per call, the run lemma and the refinement theorem.
-/

namespace ConfigTables.Journal

open Json

/-! ## §1 — the file codec -/

theorem digitsValue?_toDigits (m : Nat) : digitsValue? (Nat.toDigits 10 m) = some m := by
  rw [digitsValue?, if_pos ⟨Nat.toDigits_ne_nil, List.all_eq_true.mpr fun c hc =>
    Nat.isDigit_of_mem_toDigits (by decide) (by decide) hc⟩, Nat.ofDigitChars_ten_toDigits]

/-- **A printed whole number reads back.** -/
theorem wholeOfText?_repr (n : Int) : wholeOfText? n.repr = some n := by
  rw [Int.repr_eq_if]
  split
  · next h =>
    unfold wholeOfText?
    rw [Nat.toList_repr]
    split
    · next ds heq =>
      -- a decimal digit is never a minus sign
      have := Json.digit_bounds (heq ▸ List.mem_cons_self : '-' ∈ Nat.toDigits 10 n.toNat)
      simp at this
    · simp [digitsValue?_toDigits]
      omega
  · next h =>
    unfold wholeOfText?
    simp [digitsValue?_toDigits]
    omega

theorem wholeOfText?_natRepr (m : Nat) : wholeOfText? m.repr = some (m : Int) :=
  wholeOfText?_repr m

theorem whole_nat (n : Nat) : Whole (.nat n) := Whole.int n

theorem whole_int (n : Int) : Whole (.int n) := Whole.int n

theorem Session.ofJson_toJson (s : Session) : Session.ofJson s.toJson = s := by
  simp [Session.ofJson, Session.toJson, textAt, intAt, Json.get?, Json.nat, Json.int,
    wholeOfText?_repr, wholeOfText?_natRepr]

theorem Line.ofJson_toJson (l : Line) : Line.ofJson l.toJson = l := by
  simp [Line.ofJson, Line.toJson, textAt, intAt, Json.get?, Json.int, wholeOfText?_repr]

theorem Line.ofJson_comp_toJson : Line.ofJson ∘ Line.toJson = id := funext Line.ofJson_toJson

theorem Session.whole_toJson (s : Session) : Whole s.toJson := by
  refine Whole.object fun m hm => ?_
  simp only [List.mem_cons, List.not_mem_nil, or_false] at hm
  rcases hm with rfl | rfl | rfl | rfl | rfl | rfl | rfl | rfl
  · exact .string _
  · exact .string _
  · exact .string _
  · exact .string _
  · exact whole_nat _
  · exact whole_nat _
  · exact whole_int _
  · exact whole_int _

theorem Line.whole_toJson (l : Line) : Whole l.toJson := by
  refine Whole.object fun m hm => ?_
  simp only [List.mem_cons, List.not_mem_nil, or_false] at hm
  rcases hm with rfl | rfl | rfl | rfl | rfl | rfl
  · exact .string _
  · exact .string _
  · exact whole_int _
  · exact .string _
  · exact .string _
  · exact .bool _

theorem TableRow.ofJson_toJson (r : TableRow) : TableRow.ofJson r.toJson = r := by
  simp [TableRow.ofJson, TableRow.toJson, textAt, Json.get?, Line.ofJson_toJson]

theorem TableRow.whole_toJson (r : TableRow) : Whole r.toJson := by
  refine Whole.object fun m hm => ?_
  simp only [List.mem_cons, List.not_mem_nil, or_false] at hm
  rcases hm with rfl | rfl
  · exact .string _
  · exact Line.whole_toJson _

/-- The rows of a database, read back with their keys, are that database. -/
theorem Db.ofRows?_rows (db : Db) : Db.ofRows? db.sessions db.tables = some db := by
  rw [Db.ofRows?, dif_pos db.keys]

/-- **A journal file reads back as the database written.** -/
theorem Db.decode_encode (db : Db) : Db.decode db.encode = some db := by
  unfold Db.encode Db.decode
  rw [parseDocument_compact, octets_object]
  · simp [itemsAt, Json.get?, Function.comp_def, Session.ofJson_toJson, TableRow.ofJson_toJson,
      Db.ofRows?_rows]
  · -- every number in the file is a printed count, duration or instant
    refine Whole.object fun m hm => ?_
    simp only [List.mem_cons, List.not_mem_nil, or_false] at hm
    rcases hm with rfl | rfl
    · refine Whole.array fun x hx => ?_
      obtain ⟨s, -, rfl⟩ := List.mem_map.mp hx
      exact Session.whole_toJson s
    · refine Whole.array fun x hx => ?_
      obtain ⟨r, -, rfl⟩ := List.mem_map.mp hx
      exact TableRow.whole_toJson r

/-- The file of a journal is never empty. -/
theorem Db.encode_ne_nil (db : Db) : db.encode ≠ [] := by
  rw [Db.encode, octets_object]
  exact List.cons_ne_nil _ _

/-! ## §2 — a sound handle -/

namespace Handle

/-- An open journal as every call keeps it: open, its file holding its database and its
directory in place, and its backup and companion files apart from both walks. -/
structure Sound (h : Handle) (fs : Files.Tree) : Prop where
  live : h.live = true
  file : fs.find h.path = .ok (.file h.db.encode)
  dir : fs.find (Files.Path.dir h.path) = .ok .dir
  apart : ∀ q ∈ (h.path ++ ".bak") :: companions h.path,
    fs.keyOf q ∉ fs.way h.path ∧ fs.keyOf q ∉ fs.way (Files.Path.dir h.path)

/-- A tree with the same root on which the journal's file and directory are found as before
keeps the journal sound. -/
theorem Sound.frame {h : Handle} {fs fs' : Files.Tree} (hs : h.Sound fs)
    (hroot : fs'.root = fs.root)
    (hfile : fs'.find h.path = fs.find h.path)
    (hdir : fs'.find (Files.Path.dir h.path) = fs.find (Files.Path.dir h.path)) : h.Sound fs' where
  live := hs.live
  file := hfile.trans hs.file
  dir := hdir.trans hs.dir
  apart q hq := by
    rw [Files.Tree.keyOf_congr hroot, Files.Tree.way_congr hroot, Files.Tree.way_congr hroot]
    exact hs.apart q hq

/-- **Storing a database writes it over the journal's file.** -/
theorem Sound.store {h : Handle} {fs : Files.Tree} (hs : h.Sound fs) (db : Db) :
    (h.store fs db).1.Sound (h.store fs db).2 := by
  have hwrite := Files.Tree.write_of_file hs.file db.encode
  simp only [Handle.store, hwrite, Except.toOption, Option.getD_some]
  exact {
    live := hs.live
    file := Files.Tree.find_put_key hs.file _
    dir := by
      rw [Files.Tree.find_put_of_not_mem (Files.Tree.keyOf_not_mem_way hs.file hs.dir)]
      exact hs.dir
    apart := fun q hq => by
      rw [Files.Tree.keyOf_congr (Files.Tree.put_root _ _ _),
        Files.Tree.way_congr (Files.Tree.put_root _ _ _),
        Files.Tree.way_congr (Files.Tree.put_root _ _ _)]
      exact hs.apart q hq }

/-- **Touching a side file keeps the journal sound**: the backup and companion files lie off
the walks to the journal's file and directory. -/
theorem Sound.side {h : Handle} {fs fs' : Files.Tree} (hs : h.Sound fs) {q : String}
    (hq : q ∈ (h.path ++ ".bak") :: companions h.path)
    (hstep : ∀ p, fs.keyOf q ∉ fs.way p → fs'.find p = fs.find p ∧ fs'.root = fs.root) :
    h.Sound fs' :=
  have hfile := hstep h.path (hs.apart q hq).1
  hs.frame hfile.2 hfile.1 (hstep _ (hs.apart q hq).2).1

/-- Touching side files one after another keeps the journal sound. -/
theorem Sound.sides {h : Handle} (f : Files.Tree → String → Files.Tree)
    (hf : ∀ fs q p, fs.keyOf q ∉ fs.way p →
      (f fs q).find p = fs.find p ∧ (f fs q).root = fs.root)
    {fs : Files.Tree} (hs : h.Sound fs) (qs : List String)
    (hqs : ∀ q ∈ qs, q ∈ (h.path ++ ".bak") :: companions h.path) :
    h.Sound (qs.foldl f fs) := by
  induction qs generalizing fs with
  | nil => exact hs
  | cons q qs ih =>
    exact ih (hs.side (hqs q List.mem_cons_self) (hf fs q))
      fun q' hq' => hqs q' (List.mem_cons_of_mem _ hq')

/-- Writing the journal's own database over its file keeps it sound. -/
theorem Sound.rewrite {h : Handle} {fs : Files.Tree} (hs : h.Sound fs) :
    h.Sound (fs.put (fs.keyOf h.path) (.file h.db.encode)) := by
  have hstore := hs.store h.db
  rw [Handle.store, Files.Tree.write_of_file hs.file] at hstore
  exact hstore

theorem Sound.eta {h : Handle} {fs : Files.Tree} (hs : h.Sound fs) :
    ({ path := h.path, db := h.db, live := true } : Handle) = h := by
  obtain ⟨path, db, live⟩ := h
  obtain rfl : live = true := hs.live
  rfl

/-- Writing the companion files keeps the journal sound. -/
theorem Sound.writeCompanions {h : Handle} {fs : Files.Tree} (hs : h.Sound fs) :
    h.Sound ((companions h.path).foldl (fun fs p => (fs.write p []).toOption.getD fs) fs) :=
  hs.sides _ (fun _ _ _ hp => Files.Tree.find_write_apart hp _) _
    fun _ hq => List.mem_cons_of_mem _ hq

/-- **Opening a sound journal's file again** finds the same database, and keeps it sound. -/
theorem Sound.openAt {h : Handle} {fs : Files.Tree} (hs : h.Sound fs) :
    ∃ fs' logs, Handle.openAt fs h.path = .ok (h, fs', logs) ∧ h.Sound fs' := by
  have hbak : h.Sound ((fs.write (h.path ++ ".bak") h.db.encode).toOption.getD fs) :=
    hs.side List.mem_cons_self fun _ hp => Files.Tree.find_write_apart hp _
  unfold Handle.openAt
  rw [Files.Tree.mkdirAll_of_dir hs.dir]
  simp only [Except.mapError, bind, Except.bind]
  rw [hs.file]
  have hne : h.db.encode.isEmpty = false := List.isEmpty_eq_false_iff.mpr (Db.encode_ne_nil _)
  simp only [Option.getD_some, Db.decode_encode, hne, Bool.false_eq_true, if_false]
  -- whether the backup is written or not, the journal's file and directory stay as they were
  cases hw : fs.write (h.path ++ ".bak") h.db.encode
  all_goals
    simp only [hw, Except.toOption, Option.getD_some, Option.getD_none] at hbak
    simp only [Files.Tree.write_of_file hbak.file, pure, Except.pure]
    exact ⟨_, _, by rw [hs.eta], hbak.rewrite.writeCompanions⟩

/-- **Reopening a sound journal** gives back the same journal, still sound. -/
theorem Sound.reopen {h : Handle} {fs : Files.Tree} (hs : h.Sound fs) :
    ∃ fs' logs, h.reopen fs = .ok (h, fs', logs) ∧ h.Sound fs' := by
  -- closing removes the companion files only
  have hclosed : h.Sound
      (List.foldl (fun fs p => (fs.remove p).toOption.getD fs) fs (Journal.companions h.path)) :=
    hs.sides _ (fun _ _ _ hp => Files.Tree.find_remove_apart hp) _
      fun _ hq => List.mem_cons_of_mem _ hq
  simp only [Handle.reopen, Handle.close, hs.live, Bool.not_true, Bool.false_eq_true, if_false]
  exact hclosed.openAt

/-! ## §3 — calls -/

/-- What an open journal answers to a call, with the handle and the tree after it. A record
leaves the database its transaction leaves, committed or rolled back. -/
def call (h : Handle) (fs : Files.Tree) : Call → Reply × Handle × Files.Tree
  | .record e =>
    match h.recordTx fs e with
    | (h', fs', .ok _) => (.recorded true, h', fs')
    | (h', fs', .error _) => (.recorded false, h', fs')
  | .prune keep =>
    match h.prune fs keep with
    | .ok (h', fs', n, _) => (.removed n, h', fs')
    | .error m => (.failed m, h, fs)
  | .recent limit =>
    match h.recent limit with
    | .ok xs => (.sessions xs, h, fs)
    | .error m => (.failed m, h, fs)
  | .session id => (.session (h.session id), h, fs)
  | .lines id =>
    match h.lines id with
    | .ok xs => (.lines xs, h, fs)
    | .error m => (.failed m, h, fs)
  | .reopen =>
    match h.reopen fs with
    | .ok (h', fs', _) => (.reopened, h', fs')
    | .error m => (.failed m, (h.close fs).1, (h.close fs).2)

/-- The replies to calls made one after another, each on the journal the one before left. -/
def replies (h : Handle) (fs : Files.Tree) : List Call → List Reply
  | [] => []
  | c :: cs => (h.call fs c).1 :: (h.call fs c).2.1.replies (h.call fs c).2.2 cs

/-- A call on a sound journal as the reference model answers it, leaving a sound journal. -/
def Answers (h : Handle) (fs : Files.Tree) (c : Call) : Prop :=
  Ledger.Step h.db.contents c (h.call fs c).1 (h.call fs c).2.1.db.contents ∧
    (h.call fs c).2.1.Sound (h.call fs c).2.2

/-- An open journal lists its sessions newest first, cut to a positive limit. -/
theorem Sound.recent_eq {h : Handle} {fs : Files.Tree} (hs : h.Sound fs) (limit : Int) :
    h.recent limit = .ok (Ledger.limited limit (h.db.select (listQuery none))) := by
  simp only [Handle.recent, reading, hs.live, if_true, Ledger.limited]
  split
  · rw [Db.select_listQuery_some]
  · rfl

theorem Sound.call_record {h : Handle} {fs : Files.Tree} (hs : h.Sound fs) (e : Entry) :
    h.Answers fs (.record e) := by
  by_cases hid : e.session.id = ""
  · -- a report without an id is refused before the database is asked
    have hcall : h.call fs (.record e) = (.recorded false, h, fs) := by
      simp [call, recordTx, hid]
    rw [Answers, hcall]
    exact ⟨.refuse (.inl hid), hs⟩
  by_cases he : (e.lines.map (·.name)).Nodup
  · -- the transaction commits: the session takes its id's place, and the file is written
    obtain ⟨d, hd, hc⟩ := h.db.record_commits he
    have hcall : h.call fs (.record e) =
        (.recorded true, (h.store fs d).1, (h.store fs d).2) := by
      simp [call, recordTx, hid, hs.live, hd]
    rw [Answers, hcall]
    refine ⟨?_, hs.store d⟩
    show Ledger.Step _ _ _ d.contents
    rw [hc]
    exact .record hid he
  · -- a table named twice rolls the transaction back to the database it began on
    obtain ⟨m, hm⟩ := h.db.record_rolls_back he
    have hcall : h.call fs (.record e) = (.recorded false, h, fs) := by
      simp [call, recordTx, hid, hs.live, hm, hs.eta]
    rw [Answers, hcall]
    exact ⟨.refuse (.inr he), hs⟩

theorem Sound.call_prune {h : Handle} {fs : Files.Tree} (hs : h.Sound fs) (keep : Int) :
    h.Answers fs (.prune keep) := by
  have hkeep : (if keep < 0 then 0 else keep.toNat) = keep.toNat := by split <;> omega
  set d := (h.db.deleteWhere fun s =>
    !(((h.db.select (listQuery none)).take keep.toNat).map (·.id)).contains s.id)
  have hcall : h.call fs (.prune keep) = (.removed d.2, (h.store fs d.1).1, (h.store fs d.1).2) := by
    simp only [call, Handle.prune, hs.live, Bool.not_true, Bool.false_eq_true, if_false, hkeep,
      Db.exec_pruneStmt]
    rfl
  rw [Answers, hcall]
  refine ⟨?_, hs.store d.1⟩
  show Ledger.Step _ _ _ d.1.contents
  rw [show d.2 = _ from h.db.prune_removed keep.toNat]
  exact .prune h.db.select_lists (h.db.lookup_prune keep.toNat)

theorem Sound.call_recent {h : Handle} {fs : Files.Tree} (hs : h.Sound fs) (limit : Int) :
    h.Answers fs (.recent limit) := by
  have hcall : h.call fs (.recent limit) =
      (.sessions (Ledger.limited limit (h.db.select (listQuery none))), h, fs) := by
    simp [call, hs.recent_eq]
  rw [Answers, hcall]
  exact ⟨.recent h.db.select_lists, hs⟩

theorem Sound.call_session {h : Handle} {fs : Files.Tree} (hs : h.Sound fs) (id : String) :
    h.Answers fs (.session id) := by
  refine ⟨?_, hs⟩
  simp only [call, Handle.session, reading, hs.live, if_true, Except.bind, Db.select_sessionQuery]
  cases hl : h.db.contents.lookup id with
  | some v =>
    obtain ⟨s, ls⟩ := v
    exact .found hl
  | none => exact .missing hl

theorem Sound.call_lines {h : Handle} {fs : Files.Tree} (hs : h.Sound fs) (id : String) :
    h.Answers fs (.lines id) := by
  have hcall : h.call fs (.lines id) = (.lines ((h.db.rowsOf id).mergeSort
      fun a b => decide (a.name ≤ b.name)), h, fs) := by
    simp [call, Handle.lines, reading, hs.live, Db.selectTables_tablesQuery]
  rw [Answers, hcall]
  refine ⟨.lines (pairwise_name_mergeSort (h.db.nodup_rowsOf_names id)) ?_, hs⟩
  rw [Db.rows_contents]
  exact List.mergeSort_perm _ _

theorem Sound.call_reopen {h : Handle} {fs : Files.Tree} (hs : h.Sound fs) :
    h.Answers fs .reopen := by
  obtain ⟨fs', logs, hreopen, hs'⟩ := hs.reopen
  have hcall : h.call fs .reopen = (.reopened, h, fs') := by
    simp [call, hreopen]
  rw [Answers, hcall]
  exact ⟨.reopen, hs'⟩

/-- **Every call on a sound journal is answered as the reference model answers it.** -/
theorem Sound.answers {h : Handle} {fs : Files.Tree} (hs : h.Sound fs) (c : Call) :
    h.Answers fs c := by
  cases c with
  | record e => exact hs.call_record e
  | prune keep => exact hs.call_prune keep
  | recent limit => exact hs.call_recent limit
  | session id => exact hs.call_session id
  | lines id => exact hs.call_lines id
  | reopen => exact hs.call_reopen

/-- A sound journal follows the reference model through any sequence of calls. -/
theorem Sound.follows {h : Handle} {fs : Files.Tree} (hs : h.Sound fs) (cs : List Call) :
    Ledger.Follows h.db.contents cs (h.replies fs cs) := by
  induction cs generalizing h fs with
  | nil => exact .nil
  | cons c cs ih =>
    obtain ⟨hstep, hs'⟩ := hs.answers c
    exact .cons hstep (ih hs')

end Handle

/-- **A journal is its reference ledger.** From a sound journal, a list of replies answers a
list of calls in the ledger exactly when it is the list the journal gives, through records
(each one transaction over the database's two tables, committed or rolled back), prunes, reads
and reopenings; and a prune to `keep` sessions, whose subquery orders the sessions by its own
`ORDER BY`, leaves as the listing the first `keep` sessions of the listing before it, and no
session at all when `keep` is not positive. -/
theorem journal_refines_ledger {h : Handle} {fs : Files.Tree} (hs : h.Sound fs) :
    (∀ cs rs, Ledger.Follows h.db.contents cs rs ↔ rs = h.replies fs cs) ∧
    ∀ keep, (h.call fs (.prune keep)).2.1.recent 0 =
      if keep > 0 then h.recent keep else .ok [] := by
  refine ⟨fun cs rs => ⟨fun hf => hf.determined (hs.follows cs), ?_⟩, fun keep => ?_⟩
  · rintro rfl
    exact hs.follows cs
  · obtain ⟨hstep, hs'⟩ := hs.answers (.prune keep)
    have hafter := hstep.prune_lists h.db.select_lists
    have hzero : ∀ l : List Session, Ledger.limited 0 l = l := fun l => by simp [Ledger.limited]
    rw [hs'.recent_eq, hs.recent_eq, hzero, (Db.select_lists _).unique hafter]
    split_ifs with hk
    · simp [Ledger.limited, hk]
    · rfl

/-- Pruning to no sessions empties the listing: on a fresh journal, after one session is
recorded, the listing holds it, a prune to `0` removes it, and the listing after the prune is
empty, where the listing before it with the same count `0` held the session. -/
theorem prune_zero_empties_listing :
    (⟨"journal.db", Db.empty, true⟩ : Handle).replies
        ⟨[("journal.db", .file Db.empty.encode)], ""⟩
        [.record ⟨⟨"s1", "d", "json", "ready", 0, 0, 1700000000000000000, 1⟩, []⟩, .recent 0,
          .prune 0, .recent 0] =
      [.recorded true, .sessions [⟨"s1", "d", "json", "ready", 0, 0, 1700000000000000000, 1⟩],
        .removed 1, .sessions []] := by
  simp [Handle.replies, Handle.call, Handle.recordTx, Handle.recent, Handle.prune, Handle.reading,
    Handle.store, Db.record, Db.begin, recordStmts, Tx.run, Tx.commit, Db.exec, Db.deleteWhere,
    Db.select, listQuery, pruneStmt, orderBy, Db.empty]

/-- A fresh journal file at the working directory's top is sound, and calls on it follow the
ledger. -/
theorem fresh_journal_refines_ledger :
    (⟨"journal.db", Db.empty, true⟩ : Handle).Sound
        ⟨[("journal.db", .file Db.empty.encode)], ""⟩ ∧
      ∀ cs rs, Ledger.Follows Db.empty.contents cs rs ↔
        rs = (⟨"journal.db", Db.empty, true⟩ : Handle).replies
          ⟨[("journal.db", .file Db.empty.encode)], ""⟩ cs := by
  let fs : Files.Tree := ⟨[("journal.db", .file Db.empty.encode)], ""⟩
  have hfile : fs.find "journal.db" = .ok (.file Db.empty.encode) :=
    Files.Tree.find_of_way (show fs.way "journal.db" = [] ++ ["journal.db"] by decide +kernel)
      (by simp) (by simp [fs, Files.Tree.get?])
  have hdir : fs.find (Files.Path.dir "journal.db") = .ok .dir := by
    rw [Files.Tree.find, show fs.elementsOf (Files.Path.dir "journal.db") = some [] by
      decide +kernel]
  have hs : (⟨"journal.db", Db.empty, true⟩ : Handle).Sound fs :=
    ⟨rfl, hfile, hdir, by decide +kernel⟩
  exact ⟨hs, (journal_refines_ledger hs).1⟩

end ConfigTables.Journal
