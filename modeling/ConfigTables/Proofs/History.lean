import Mathlib
import ConfigTables.Proofs.Ledger
import ConfigTables.Proofs.ValidatedLoads
import ConfigTables.Present.Report

/-!
# History shows what the load showed

A load's report is shown directly, and it is also recorded in the journal and shown again from
the session and table rows read back. The two views are built from different data: durations
pass through whole microseconds, the start through its nanoseconds, table order through the
journal's name order, and a table's ok flag is recomputed from its stored error text. This
module shows the two views agree field for field.

* §1 A table's own load fails only with a table-load failure when it decodes its file, and so
  every fault a load reports has a text (`Hub.load_told`): then the stored error text is empty
  exactly for the tables that succeeded.
* §2 A session recorded in the journal reads back under its id, its tables in name order.
* §3 The report and its recorded entry show alike.
-/

namespace ConfigTables

/-! ## §1 — every failed table says why -/

/-- A table-load failure, with any kind, table, file and cause. -/
def Fault.IsLoad : Fault → Prop
  | .load _ _ _ _ => True
  | _ => False

namespace Load

theorem classify_isLoad (name path : String) (e : Fault) : (classify name path e).IsLoad := by
  unfold classify
  split
  · split <;> trivial
  · trivial

/-- A load step that fails only with a table-load failure. -/
def Step.FailsAsLoad : Step → Prop
  | .failed _ e => e.IsLoad
  | _ => True

theorem Step.classify_failsAsLoad (s : Step) (name path : String) :
    (s.classify name path).FailsAsLoad := by
  cases s with
  | failed p e => exact classify_isLoad name path e
  | _ => trivial

/-- Merging patches fails only with table-load failures: each of its failures is named for the
patch file. -/
theorem mergePatches_failsAsLoad (fs : Files.Tree) (o : TableOptions) (name : String) :
    ∀ (cur : Payload) (qs : List String), (mergePatches fs o name cur qs).FailsAsLoad
  | _, [] => trivial
  | cur, q :: qs => by
    simp only [mergePatches]
    split
    · trivial
    · split
      · trivial
      · split
        · trivial
        · exact classify_isLoad name q _
        · split
          · trivial
          · exact mergePatches_failsAsLoad fs o name _ qs

theorem loadWithPatches_failsAsLoad (fs : Files.Tree) (o : TableOptions) (p : Payload)
    (name path : String) (f : Format) (patches : List String) :
    (loadWithPatches fs o p name path f patches).FailsAsLoad := by
  unfold loadWithPatches
  by_cases hrep : o.patch = PatchRule.replace
  · simp only [if_pos hrep]
    split
    · trivial
    · exact Step.classify_failsAsLoad _ name _
  · by_cases hmerge : o.patch = PatchRule.merge
    · simp only [if_neg hrep, if_pos hmerge]
      -- the main file's step, then the patches over what it filled
      have hstart : (if o.mode ≠ Mode.onlyPatch then (runStep fs o p path f).classify name path
          else .filled p).FailsAsLoad := by
        split
        · exact Step.classify_failsAsLoad _ name path
        · trivial
      split
      · exact mergePatches_failsAsLoad fs o name _ patches
      · exact hstart
    · simp only [if_neg hrep, if_neg hmerge]
      trivial

/-- **Loading a table's payload fails only with a table-load failure**, whatever its options:
a file of no known format, a format that cannot be loaded, and every failure of the load step or
of a patch is named for the table. -/
theorem loadMessage_failsAsLoad (fs : Files.Tree) (p : Payload) (name dir : String) (f : Format)
    (opts : Option TableOptions) : (loadMessage fs p name dir f opts).step.FailsAsLoad := by
  unfold loadMessage
  dsimp only
  split
  · next e heq =>
    show e.IsLoad
    split_ifs at heq <;> cases heq <;> trivial
  · split
    · exact Step.classify_failsAsLoad _ name _
    · split
      · split
        · trivial
        · exact Step.classify_failsAsLoad _ name _
      · split
        · trivial
        · exact loadWithPatches_failsAsLoad _ _ _ _ _ _ _

end Load

theorem LoadKind.name_ne_empty (k : LoadKind) : k.name ≠ "" := by
  cases k <;> simp [LoadKind.name]

/-- A table-load failure always has a text: its kind is named in it. -/
theorem Fault.IsLoad.message_ne {e : Fault} (h : e.IsLoad) : e.message ≠ "" := by
  cases e with
  | load k t p c => cases c <;> simp [Fault.message, k.name_ne_empty]
  | _ => cases h

theorem Fault.message_hook_ne (t : String) (s : HookStage) (c : Fault) :
    (Fault.hook t s c).message ≠ "" := by
  simp [Fault.message]

namespace Hub

/-- A table whose load fails only with a table-load failure, as decoding its file does. -/
def Table.FailsAsLoad (t : Table) : Prop :=
  ∀ fs dir f o nanos e, (t.load fs dir f o nanos).2.1 = .failed e → e.IsLoad

theorem Table.decode_failsAsLoad (t : Table) {fs : Files.Tree} {dir : String} {f : Format}
    {o : Load.TableOptions} {nanos : Int} {e : Fault}
    (h : (t.decode fs dir f o nanos).2.1 = .failed e) : e.IsLoad := by
  have hstep := Load.loadMessage_failsAsLoad fs t.kind.blank t.name dir f (some o)
  unfold Table.decode at h
  dsimp only at h
  split at h
  · cases h
  · next p e' heq =>
    cases h
    rw [heq] at hstep
    exact hstep
  · cases h

/-- A built-in table decodes its file, so its load fails only with a table-load failure. -/
theorem Table.failsAsLoad_of_builtin {t : Table} {ty : TableType} (hk : t.kind = .builtin ty) :
    t.FailsAsLoad := by
  intro fs dir f o nanos e h
  unfold Table.load at h
  rw [hk] at h
  exact t.decode_failsAsLoad h

theorem joinAfter_message_ne (prev : Option Fault) {e : Fault} (he : e.message ≠ "") :
    (joinAfter prev e).message ≠ "" := by
  cases prev <;> simp [joinAfter, Fault.message, Fault.messageLines, he]

/-- An optional fault whose text, when there is one, is not empty. -/
def Told (o : Option Fault) : Prop := ∀ e ∈ o, e.message ≠ ""

theorem told_ownFault {name path : String} {load : Outcome} (own : Option Outcome)
    (hload : ∀ e, load = .failed e → e.IsLoad) : Told (ownFault name path load own) := by
  intro x hx
  cases load with
  | panicked v =>
    cases hx
    exact Fault.IsLoad.message_ne trivial
  | failed e => exact Option.mem_some_iff.mp hx ▸ (hload e rfl).message_ne
  | done =>
    obtain ⟨c, -, rfl⟩ := Option.mem_map.mp hx
    exact Fault.message_hook_ne _ _ _

theorem told_crossFault (name : String) {prev : Option Fault} (hprev : Told prev)
    (hook : Option Fault) : Told (crossFault name prev hook) := by
  cases hook with
  | none => exact hprev
  | some e =>
    intro x hx
    cases hx
    exact joinAfter_message_ne prev (Fault.message_hook_ne _ _ _)

theorem told_loadJob (fs : Files.Tree) (dir : String) (f : Format) (opts : Load.Options)
    (done : Option Done) (nanos : Int) (name : String) {t : Table} (ht : t.FailsAsLoad) :
    Told (loadJob fs dir f opts done nanos name t).2.1 := by
  cases done with
  | some d =>
    intro x hx
    cases hx
    exact Fault.IsLoad.message_ne trivial
  | none =>
    rw [loadJob_fault]
    exact told_ownFault _ fun e he => ht _ _ _ _ _ e he

/-- **Every failed table of a load says why**: when the tables a hub builds fail to load only
with table-load failures, every fault a load reports has a text, whether the table was skipped,
failed to load, stopped, or failed a hook. -/
theorem load_told {h : Hub} (hr : h.registry.Ordered) (hb : h.Builds)
    (hfail : ∀ x ∈ h.fresh, x.2.FailsAsLoad) (fs : Files.Tree) (req : Request) (stamp : Stamp)
    (ctx : Context) :
    ∀ r ∈ ((h.load fs req stamp ctx).1.report?.map (·.tables)).getD [],
      Told r.fault := by
  intro r hmem
  obtain ⟨i, x, hx, hi⟩ := load_report_at hb fs req stamp ctx hmem
  obtain ⟨-, hrep⟩ := Hub.load_at fs req stamp ctx hr hb hx
  rw [hrep, Option.some.injEq] at hi
  subst hi
  rw [TableReport.crossed_fault]
  exact told_crossFault _ (told_loadJob _ _ _ _ _ _ _ (hfail x (List.mem_of_getElem? hx))) _

/-- A load publishes a report, stamped with the load's start. -/
theorem load_report_stamped {h : Hub} (hb : h.Builds) (fs : Files.Tree) (req : Request)
    (stamp : Stamp) (ctx : Context) :
    ∃ rep, (h.load fs req stamp ctx).1.report? = some rep ∧
      rep.startedAt = stamp.startedAt := by
  rw [load_eq hb]
  exact ⟨_, rfl, rfl⟩

end Hub

/-! ## §2 — a recorded session reads back -/

namespace Journal

/-- A record that goes through has committed its transaction: the database holds the session in
place of any earlier one under its id, with exactly its tables. -/
theorem Handle.record_commits {h h' : Handle} {fs fs' : Files.Tree} {e : Entry}
    {r : Log.Record} (hrec : h.record fs e = .ok (h', fs', r)) :
    h'.live = true ∧ h'.db.contents = h.db.contents.insert e.session.id (e.session, e.lines) := by
  -- a report without an id, or a closed journal, fails before the database is asked
  by_cases hid : e.session.id = ""
  · simp [Handle.record, Handle.recordTx, hid] at hrec
  cases hl : h.live
  · simp [Handle.record, Handle.recordTx, hid, hl] at hrec
  rcases hd : h.db.record e with ⟨d, _ | m⟩
  · simp only [Handle.record, Handle.recordTx, hid, hl, hd, Handle.store, if_false,
      Bool.not_true, Bool.false_eq_true] at hrec
    cases hrec
    exact ⟨rfl, (Db.record_eq_none hd).2⟩
  · simp [Handle.record, Handle.recordTx, hid, hl, hd] at hrec

/-- Table rows already strictly in name order are listed as they are. -/
theorem mergeSort_lines {ls : List Line} (h : (ls.map (·.name)).Pairwise (· < ·)) :
    ls.mergeSort (fun a b => decide (a.name ≤ b.name)) = ls :=
  List.mergeSort_of_pairwise ((List.pairwise_map.mp h).imp fun hab => decide_eq_true (le_of_lt hab))

/-- **A recorded session reads back**: after a record goes through, the journal finds the
session under its id, and its tables in name order. -/
theorem Handle.reads_after_record {h h' : Handle} {fs fs' : Files.Tree} {e : Entry}
    {r : Log.Record} (hrec : h.record fs e = .ok (h', fs', r)) :
    h'.session e.session.id = .ok e.session ∧
      h'.lines e.session.id = .ok (e.lines.mergeSort fun a b => decide (a.name ≤ b.name)) := by
  obtain ⟨hl, hc⟩ := Handle.record_commits hrec
  have hrows : h'.db.rowsOf e.session.id = e.lines := by
    rw [← Db.rows_contents, Ledger.rows, hc, Finmap.lookup_insert]
    rfl
  constructor
  · simp [Handle.session, Handle.reading, hl, Db.select_sessionQuery, hc, Except.bind]
  · simp [Handle.lines, Handle.reading, hl, Db.selectTables_tablesQuery, hrows]

end Journal

/-! ## §3 — the report and its recorded entry -/

namespace Present

open Hub

/-- A table that says why it failed is ok exactly when its error text is empty. -/
theorem ok_eq_errorText {t : Hub.TableReport} (ht : Hub.Told t.fault) :
    t.ok = decide ((t.fault.map (·.message)).getD "" = "") := by
  cases hf : t.fault with
  | none => simp [Hub.TableReport.ok, hf]
  | some e => simp [Hub.TableReport.ok, hf, ht e hf]

/-- **The entry of a report shows as the report**, field for field, when the report has a start
time and each of its failed tables says why. -/
theorem ofJournal_entry (r : Hub.Report) (hstart : r.startedAt.isSome)
    (ht : ∀ t ∈ r.tables, Hub.Told t.fault) :
    ReportView.ofJournal (Journal.Entry.ofReport r).session (Journal.Entry.ofReport r).lines =
      ReportView.ofReport r := by
  obtain ⟨ns, hat⟩ := Option.isSome_iff_exists.mp hstart
  simp only [ReportView.ofJournal, ReportView.ofReport, Journal.Entry.ofReport, hat,
    Option.getD_some, List.map_map]
  -- only the ok flag is built differently: from the fault, and from the stored error text
  congr 1
  refine List.map_congr_left fun t htm => ?_
  simp [Journal.Line.ok, ok_eq_errorText (ht t htm)]

/-- **History shows what the load showed.** For a hub over ordered tables that all build and
fail to load only with table-load failures, a load publishes a report; when the load has a start
time and the journal records the report, the journal finds the session under its id, and the
session with its tables shows exactly as the report does: id, directory, format, state, start,
duration, counts, and every table's name, position, file, duration, ok flag, kind and error
text. -/
theorem history_shows_report {h : Hub} (hr : h.registry.Ordered) (hb : h.Builds)
    (hfail : ∀ x ∈ h.fresh, x.2.FailsAsLoad) (fs : Files.Tree) (req : Hub.Request)
    (stamp : Hub.Stamp) (ctx : Context) (hstart : stamp.startedAt.isSome) :
    ∃ rep, (h.load fs req stamp ctx).1.report? = some rep ∧
      ∀ (jh jh' : Journal.Handle) (jfs jfs' : Files.Tree) (log : Log.Record),
        jh.record jfs (Journal.Entry.ofReport rep) = .ok (jh', jfs', log) →
        ∃ s ls, jh'.session rep.sessionId = .ok s ∧ jh'.lines rep.sessionId = .ok ls ∧
          ReportView.ofJournal s ls = ReportView.ofReport rep := by
  obtain ⟨rep, hrep, hat⟩ := Hub.load_report_stamped hb fs req stamp ctx
  have htables : ((h.load fs req stamp ctx).1.report?.map (·.tables)).getD [] =
      rep.tables := by
    rw [hrep]
    rfl
  -- every failed table says why, and the tables stand in name order
  have htold := htables ▸ Hub.load_told hr hb hfail fs req stamp ctx
  have hnames : (rep.tables.map (·.name)).Pairwise (· < ·) := by
    rw [← htables, Hub.load_report_names fs req stamp ctx hb]
    exact Hub.accepted_ordered hr
  refine ⟨rep, hrep, fun jh jh' jfs jfs' log hrec => ?_⟩
  obtain ⟨hsession, hlines⟩ := Journal.Handle.reads_after_record hrec
  refine ⟨_, _, hsession, hlines, ?_⟩
  have hsorted : ((Journal.Entry.ofReport rep).lines.map (·.name)).Pairwise (· < ·) := by
    rw [Journal.Entry.ofReport, List.map_map]
    exact hnames
  rw [Journal.mergeSort_lines hsorted]
  exact ofJournal_entry rep (hat ▸ hstart) htold

/-- A load of the registered tables, stamped with a start time, shows in the history as it
showed in its report. -/
theorem registry_history_shows_report :
    let h := Hub.create Command.registry ⟨.all, [], none, false⟩
    let stamp : Hub.Stamp := ⟨"s1", some 1700000000000000000, 1000⟩
    h.registry.Ordered ∧ h.Builds ∧ (∀ x ∈ h.fresh, x.2.FailsAsLoad) ∧
      stamp.startedAt.isSome ∧
      ∃ rep, (h.load .empty ⟨"conf", .json, []⟩ stamp .background).1.report? = some rep ∧
        ∀ (jh jh' : Journal.Handle) (jfs jfs' : Files.Tree) (log : Log.Record),
          jh.record jfs (Journal.Entry.ofReport rep) = .ok (jh', jfs', log) →
          ∃ s ls, jh'.session rep.sessionId = .ok s ∧ jh'.lines rep.sessionId = .ok ls ∧
            ReportView.ofJournal s ls = ReportView.ofReport rep := by
  intro h stamp
  have hfail : ∀ x ∈ h.fresh, x.2.FailsAsLoad := fun x hx =>
    have ⟨_, hk⟩ := Hub.fresh_builtin rfl hx
    Hub.Table.failsAsLoad_of_builtin hk
  exact ⟨registry_ordered, Hub.create_registry_builds _, hfail, rfl,
    history_shows_report registry_ordered (Hub.create_registry_builds _) hfail _ _ _ _ rfl⟩

end Present

end ConfigTables
