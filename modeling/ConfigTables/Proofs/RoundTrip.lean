import Mathlib
import ConfigTables.Proofs.StoreFiles
import ConfigTables.Proofs.LoadCycle
/-!
# Storing a hub and loading it back

A hub over the program's own registry, once loaded, can be stored in JSON or in the binary
format; a fresh hub over the same registry, with nothing set, can then load the directory back.
Main statement: `store_then_load_round_trips`. When the store reports no fault and the codec
reads what it wrote of each stored payload back into a blank one, the fresh hub serves every
stored table's payload unchanged, and a table that loaded without a fault does so again.

* §1 — what a table's own steps read: a built-in table shows its data, its own hook ends alike
  on alike data, the row index a job leaves is built from the rows it holds
  (`loadJob_index`), and the task table's hook is done exactly when the item table's index
  holds every reward (`Table.afterAll_task_isDone`).
* §2 — a table's file read with nothing set: the codec's read of the file is the table's data.
* §3 — the views cross-table hooks see: a table without such a hook stands in every view as its
  own job left it.
* §4 — what a load leaves at each position of its fresh tables: the published table, its report,
  and the item table the task table's hook sees.
* §5 — the round trip: every stored table reads back into a fresh table of its type
  (`stored_reads_back`), the fresh hub serves it (`round_trip_payloads`), and a table whose
  load had no fault has none again (`round_trip_faults`).
-/

namespace ConfigTables.Hub

open Files

/-! ## §1 — what a table's own steps read -/

/-- A built-in table shows its data. -/
theorem Table.message_of_builtin {t : Table} {ty : TableType} (hk : t.kind = .builtin ty) :
    t.message = t.data := by
  simp [Table.message, hk]

/-- A table without a cross-table hook leaves the cross-table phase as it was. -/
theorem Table.crossed_of_noCross {t : Table} (h : t.kind.hasCrossHook = false) (v : View) :
    t.crossed v = t := by
  have hnone : t.afterAll v = none := by
    rw [← Option.not_isSome_iff_eq_none, Table.afterAll_isSome, h]
    simp
  simp [Table.crossed, hnone]

/-- A table without a cross-table hook has nothing of it to fail. -/
theorem Table.afterAll_all_of_noCross {t : Table} (h : t.kind.hasCrossHook = false) (v : View)
    (p : Table × Outcome → Bool) : (t.afterAll v).all p = true := by
  have hnone : t.afterAll v = none := by
    rw [← Option.not_isSome_iff_eq_none, Table.afterAll_isSome, h]
    simp
  rw [hnone]
  rfl

/-- A table's own hook ends alike on tables of one kind that hold the same data. -/
theorem Table.afterLoad_isDone_congr {t t' : Table} (hk : t'.kind = t.kind)
    (hd : t'.data = t.data) :
    t'.afterLoad.all (·.2.isDone) = t.afterLoad.all (·.2.isDone) := by
  obtain ⟨k, d, p, l, i, r, o⟩ := t
  obtain ⟨k', d', p', l', i', r', o'⟩ := t'
  dsimp only at hk hd
  subst k' d'
  cases k with
  | builtin ty => cases ty <;> rfl
  | scripted s => rfl

/-- The own hook of a built-in row table rebuilds the index from the rows. -/
theorem Table.afterLoad_rows {t : Table} {ty : TableType} (hk : t.kind = .builtin ty)
    (hty : ty ≠ .themeConf) :
    ∃ o, t.afterLoad = some ({ t with index := (RowIndex.build ty 0 .empty t.data.rows).1 }, o) := by
  unfold Table.afterLoad
  rw [hk]
  cases ty
  case themeConf => exact absurd rfl hty
  all_goals exact ⟨_, rfl⟩

/-- A read that filled the table's payload is the only load of its file that is done. -/
theorem Table.decode_isDone (t : Table) (fs : Files.Tree) (dir : String) (f : Format)
    (o : Load.TableOptions) (nanos : Int) :
    (t.decode fs dir f o nanos).2.1.isDone =
      (Load.loadMessage fs t.kind.blank t.name dir f (some o)).step.payload?.isSome := by
  unfold Table.decode
  dsimp only
  split
  · next p heq => simp [heq, Load.Step.payload?, Outcome.isDone]
  · next p e heq => simp [heq, Load.Step.payload?, Outcome.isDone]
  · next v heq => simp [heq, Load.Step.payload?, Outcome.isDone]

/-- The table a job's own run leaves: what its own hook left after a load that was done, else
the table its load left. -/
theorem runTable_table (name : String) (t : Table) (fs : Files.Tree) (dir : String) (f : Format)
    (o : Load.TableOptions) (nanos : Int) :
    (runTable name t fs dir f o nanos).1 =
      if (t.load fs dir f o nanos).2.1.isDone then
        ((t.load fs dir f o nanos).1.afterLoad.map (·.1)).getD (t.load fs dir f o nanos).1
      else (t.load fs dir f o nanos).1 := by
  unfold runTable
  rcases t.load fs dir f o nanos with ⟨t1, out, logs⟩
  cases out with
  | panicked v => rfl
  | failed e => rfl
  | done =>
    dsimp only
    rcases ha : t1.afterLoad with _ | ⟨t2, o2⟩
    · simp [Outcome.isDone]
    · cases o2 <;> simp [Outcome.isDone]

/-- A job that found the context not done leaves the data of the table's own load. -/
theorem loadJob_data (fs : Files.Tree) (dir : String) (f : Format) (opts : Load.Options)
    (nanos : Int) (name : String) (t : Table) :
    (loadJob fs dir f opts none nanos name t).1.data =
      (t.load fs dir f (opts.forTable name) nanos).1.data :=
  (runTable_sameLoad name t fs dir f _ nanos).data

/-- **The row index a job leaves is built from the rows the table holds**, for every built-in
row table: after a read that filled the table its own hook builds it, and a table that read
nothing, or was skipped, holds no rows and the empty index. -/
theorem loadJob_index (fs : Files.Tree) (dir : String) (f : Format) (opts : Load.Options)
    (done : Option Done) (nanos : Int) (name : String) {ty : TableType} (hty : ty ≠ .themeConf) :
    (loadJob fs dir f opts done nanos name (Table.fresh (.builtin ty))).1.index =
      (RowIndex.build ty 0 .empty
        (loadJob fs dir f opts done nanos name (Table.fresh (.builtin ty))).1.data.rows).1 := by
  have hblank : ty.blank.rows = [] := by cases ty <;> rfl
  cases done with
  | some d => simp [loadJob, Table.fresh, Kind.blank, hblank, RowIndex.build]
  | none =>
    simp only [loadJob]
    rw [runTable_table]
    have hdec : (Table.fresh (.builtin ty)).kind.decodes := rfl
    have h1 := Table.load_of_decodes hdec fs dir f (opts.forTable name) nanos
    rw [Table.decode_table] at h1
    have h2 : ((Table.fresh (.builtin ty)).load fs dir f (opts.forTable name) nanos).2.1.isDone =
        _ := Table.decode_isDone (Table.fresh (.builtin ty)) fs dir f (opts.forTable name) nanos
    split_ifs with hdone
    · -- a load that was done: the own hook built the index from the rows read
      obtain ⟨o, ha⟩ := Table.afterLoad_rows
        (t := ((Table.fresh (.builtin ty)).load fs dir f (opts.forTable name) nanos).1)
        (by rw [Table.load_kind]; rfl) hty
      rw [ha]
      rfl
    · -- a load that was not: the payload and the index are the fresh table's
      rw [h2] at hdone
      rw [h1, Option.not_isSome_iff_eq_none.mp hdone]
      simp [Table.fresh, Kind.blank, hblank, RowIndex.build]

/-- **The task table's hook is done exactly when** the view holds the built-in item table
under its name and every reward of the task table's rows is in that table's index. -/
theorem Table.afterAll_task_isDone {t : Table} (hk : t.kind = .builtin .taskConf) (v : View) :
    (t.afterAll v).all (·.2.isDone) = true ↔
      ∃ it, v.get? TableType.itemConf.name = some it ∧ it.kind = .builtin .itemConf ∧
        joinFaults (rewardsOf t.data.rows it.index.byId).2 = none := by
  unfold Table.afterAll
  rw [hk]
  dsimp only
  split
  · -- the built-in item table is in view: the rewards decide
    rename_i data path loaded items rewards observed hit
    rw [hit]
    constructor
    · intro hd
      refine ⟨_, rfl, rfl, ?_⟩
      rcases hj : joinFaults (rewardsOf t.data.rows items.byId).2 with _ | e
      · rfl
      · simp [hj, Outcome.isDone] at hd
    · rintro ⟨it, hit', -, hj⟩
      cases hit'
      simp [hj, Outcome.isDone]
  · -- it is not: the hook fails
    rename_i hnot
    simp only [Option.all_some, Outcome.isDone, Bool.false_eq_true, false_iff, not_exists,
      not_and]
    intro it hit hkind _
    obtain ⟨k, d, p, l, i, r, o⟩ := it
    dsimp only at hkind
    subst hkind
    exact hnot d p l i r o hit

/-! ## §2 — a table's file read with nothing set -/

/-- **A file read with nothing set.** The table's file under the directory, read by the
format's codec without a fault, is what the load fills. -/
theorem loadMessage_unset {fs : Files.Tree} {p q : Payload} {name dir : String} {c : Codec}
    {bs : List UInt8} (hf : fs.find (Path.join [dir, name ++ c.format.ext]) = .ok (.file bs))
    (hread : c.read false bs p = (q, none)) :
    (Load.loadMessage fs p name dir c.format (some .unset)).step = .filled q := by
  have hbytes : fs.read (Path.join [dir, name ++ c.format.ext]) = .ok bs := by
    simp [Tree.read, hf]
  cases c <;> simp_all [Load.loadMessage, Load.tablePath, Load.patchFiles, Load.runStep,
    Load.loadByPath, Load.readOctets, Load.TableOptions.unset, Load.Shared.unset,
    Load.TableOptions.mode, Load.TableOptions.ignoreUnknown, Codec.format, Format.loadable,
    Codec.ofFormat, Load.Step.classify, Load.Mode.all, Load.Mode.onlyMain, Load.Mode.onlyPatch,
    Except.mapError]

/-- A built-in table loads by reading its file. -/
theorem Table.load_of_builtin {t : Table} {ty : TableType} (hk : t.kind = .builtin ty)
    (fs : Files.Tree) (dir : String) (f : Format) (o : Load.TableOptions) (nanos : Int) :
    t.load fs dir f o nanos = t.decode fs dir f o nanos := by
  unfold Table.load
  rw [hk]

/-- A built-in table whose read fills a payload holds that payload, and its load is done. -/
theorem Table.load_filled {t : Table} {ty : TableType} (hk : t.kind = .builtin ty)
    {fs : Files.Tree} {dir : String} {f : Format} {o : Load.TableOptions} (nanos : Int)
    {q : Payload} (h : (Load.loadMessage fs t.kind.blank t.name dir f (some o)).step = .filled q) :
    (t.load fs dir f o nanos).1.data = q ∧ (t.load fs dir f o nanos).2.1.isDone = true := by
  rw [Table.load_of_builtin hk, Table.decode_isDone, Table.decode_table, h]
  exact ⟨rfl, rfl⟩

/-! ## §3 — the views cross-table hooks see -/

section Views

variable {L F : List (String × Table)}
  (hLF : ∀ i : Nat, F[i]? = L[i]?.map fun (e : String × Table) =>
    (e.1, e.2.crossed (hookView L F i)))
include hLF

/-- The settled tables carry the loaded tables' names, in order. -/
theorem settled_names : F.map (·.1) = L.map (·.1) := by
  apply List.ext_getElem?
  intro i
  rw [List.getElem?_map, List.getElem?_map, hLF i, Option.map_map]
  rfl

/-- A loaded table without a cross-table hook is settled as it was. -/
theorem mem_settled {n : String} {x : Table} (hx : (n, x) ∈ L)
    (hc : x.kind.hasCrossHook = false) : (n, x) ∈ F := by
  obtain ⟨j, hj⟩ := List.mem_iff_getElem?.mp hx
  have hF := hLF j
  rw [hj, Option.map_some, Table.crossed_of_noCross hc] at hF
  exact List.mem_of_getElem? hF

/-- What a hook's view holds under a name, for a table without a cross-table hook, is the
table as its own job left it. -/
theorem hookView_mem {i : Nat} {n : String} {y : Table} (h : (hookView L F i).get? n = some y)
    (hc : y.kind.hasCrossHook = false) : (n, y) ∈ L := by
  obtain ⟨e, he, rfl⟩ := Option.map_eq_some_iff.mp h
  have hn : e.1 = n := by simpa using List.find?_some he
  have hmem := List.mem_of_find?_eq_some he
  obtain ⟨n', y'⟩ := e
  dsimp only at hn hc ⊢
  subst hn
  rcases List.mem_append.mp hmem with hset | hload
  · -- a settled table: its hook left it as the job did
    obtain ⟨j, hj⟩ := List.mem_iff_getElem?.mp (List.mem_of_mem_take hset)
    rw [hLF j] at hj
    obtain ⟨⟨m, x⟩, hx, hxe⟩ := Option.map_eq_some_iff.mp hj
    simp only [Prod.mk.injEq] at hxe
    obtain ⟨rfl, rfl⟩ := hxe
    rw [Table.crossed_kind] at hc
    rw [Table.crossed_of_noCross hc]
    exact List.mem_of_getElem? hx
  · exact List.mem_of_mem_drop hload

/-- **A table without a cross-table hook stands in every view** as its own job left it, when
the loaded names are distinct. -/
theorem hookView_get (hnd : (L.map (·.1)).Nodup) (i : Nat) {n : String} {x : Table}
    (hx : (n, x) ∈ L) (hc : x.kind.hasCrossHook = false) : (hookView L F i).get? n = some x := by
  have hnames : (hookView L F i).tables.map (·.1) = L.map (·.1) := by
    simp only [hookView, List.map_append, List.map_take, List.map_drop, settled_names hLF,
      List.take_append_drop]
  have hmem : (n, x) ∈ (hookView L F i).tables := by
    obtain ⟨j, hj⟩ := List.mem_iff_getElem?.mp hx
    by_cases hji : j < i
    · -- before the hook's own table: the settled table, which its hook left as it was
      have hF := hLF j
      rw [hj, Option.map_some, Table.crossed_of_noCross hc] at hF
      exact List.mem_append_left _ (List.mem_iff_getElem?.mpr ⟨j, by rw [List.getElem?_take]; simp [hji, hF]⟩)
    · exact List.mem_append_right _ (List.mem_iff_getElem?.mpr ⟨j - i, by
        rw [List.getElem?_drop, Nat.add_sub_cancel' (by omega), hj]⟩)
  unfold View.get?
  rw [find?_name_of_mem (hnames ▸ hnd) hmem]
  rfl

end Views

/-! ## §4 — what a load leaves, position by position -/

section Positions

variable {h : Hub} (fs : Files.Tree) (req : Request) (stamp : Stamp) (ctx : Context)

/-- The reports of a hub's last load, one per table; none before the first load. -/
def reports (h : Hub) : List TableReport := (h.report?.map (·.tables)).getD []

/-- A load publishes one snapshot, holding the tables the hub then serves. -/
theorem load_current (hb : h.Builds) :
    ∃ s, (h.load fs req stamp ctx).1.current = some s ∧
      s.tables = (h.load fs req stamp ctx).1.tables := by
  rw [load_eq hb]
  exact ⟨_, rfl, rfl⟩

/-- A load's reports stand position by position under the names of the hub's fresh entries. -/
theorem reports_names_at (hb : h.Builds) (i : Nat) :
    ((h.load fs req stamp ctx).1.reports[i]?).map (·.name) = (h.fresh[i]?).map (·.1) := by
  have hn := congrArg (·[i]?) (Hub.load_report_names fs req stamp ctx hb)
  rw [← Hub.fresh_names hb] at hn
  simp only [List.getElem?_map] at hn
  exact hn

/-- The report a load publishes at a position carries the name of the fresh entry there. -/
theorem report_name_at (hb : h.Builds) {i : Nat} {e : String × Table} {r : TableReport}
    (he : h.fresh[i]? = some e) (hr : (h.load fs req stamp ctx).1.reports[i]? = some r) :
    r.name = e.1 := by
  have hn := Hub.reports_names_at fs req stamp ctx hb i
  rw [hr, he] at hn
  exact Option.some.inj hn

/-- Each published report stands at the position of its table's fresh entry, under its name. -/
theorem report_at (hb : h.Builds) {r : TableReport}
    (hr : r ∈ (h.load fs req stamp ctx).1.reports) :
    ∃ (i : Nat) (e : String × Table), h.fresh[i]? = some e ∧
      (h.load fs req stamp ctx).1.reports[i]? = some r ∧
      e.1 = r.name := by
  obtain ⟨i, hi⟩ := List.mem_iff_getElem?.mp hr
  have hn := Hub.reports_names_at fs req stamp ctx hb i
  rw [hi, Option.map_some] at hn
  obtain ⟨e, he, hen⟩ := Option.map_eq_some_iff.mp hn.symm
  exact ⟨i, e, he, hi, hen⟩

/-- The table a load publishes at a position holds what its own job loaded. -/
theorem load_table_at (hr : h.registry.Ordered) (hb : h.Builds) {i : Nat}
    {e : String × Table} (he : h.fresh[i]? = some e) :
    ∃ t, (h.load fs req stamp ctx).1.tables[i]? = some (e.1, t) ∧
      (loadJob fs req.dir req.format (h.loadOptions req) (ctx.err i) stamp.tableNanos e.1
        e.2).1.SameLoad t :=
  ⟨_, (Hub.load_at fs req stamp ctx hr hb he).1, Table.crossed_sameLoad _ _⟩

/-- **The item table a cross-table hook sees** is published, and its index is built from the
rows it holds. -/
theorem view_item (hr : h.registry.Ordered) (hb : h.Builds) {i : Nat} {it : Table}
    (hget : (hookView (h.loaded fs req stamp ctx) (h.load fs req stamp ctx).1.tables
      i).get? TableType.itemConf.name = some it) (hk : it.kind = .builtin .itemConf) :
    (TableType.itemConf.name, it) ∈ (h.load fs req stamp ctx).1.tables ∧
      it.index = (RowIndex.build .itemConf 0 .empty it.data.rows).1 := by
  obtain ⟨hLF, -, -⟩ := Hub.load_barrier fs req stamp ctx hr hb
  have hc : it.kind.hasCrossHook = false := by rw [hk]; rfl
  have hL := hookView_mem hLF hget hc
  refine ⟨mem_settled hLF hL hc, ?_⟩
  -- the item table in view is its own job's table, from a fresh table of the item type
  obtain ⟨j, e, he, hje⟩ := Hub.mem_loaded fs req stamp ctx hL
  obtain ⟨k, -, hek⟩ := Hub.mem_fresh.mp (List.mem_of_getElem? he)
  simp only [jobEntry, Prod.mk.injEq] at hje
  obtain ⟨-, rfl⟩ := hje
  rw [hek] at hk ⊢
  rw [loadJob_kind, Table.fresh] at hk
  subst hk
  exact loadJob_index _ _ _ _ _ _ _ (by decide)

/-- **A loaded item table stands in every view** of the load's cross-table hooks. -/
theorem view_item_get (hr : h.registry.Ordered) (hb : h.Builds) (i : Nat) {it : Table}
    (hL : (TableType.itemConf.name, it) ∈ h.loaded fs req stamp ctx)
    (hk : it.kind = .builtin .itemConf) :
    (hookView (h.loaded fs req stamp ctx) (h.load fs req stamp ctx).1.tables
      i).get? TableType.itemConf.name = some it := by
  obtain ⟨hLF, -, -⟩ := Hub.load_barrier fs req stamp ctx hr hb
  exact hookView_get hLF (Hub.loaded_nodup fs req stamp ctx hr hb) i hL (by rw [hk]; rfl)

end Positions

/-! ## §5 — the round trip -/

/-- A codec reads what it writes of a payload back into a table kind's blank payload, whole and
without a fault. -/
def ReadsBack (c : Codec) (k : Kind) (p : Payload) : Prop :=
  ∀ bs, c.write p = .ok bs → c.read false bs k.blank = (p, none)

/-- The program's own registry gives each table of a built-in type under that type's name. -/
theorem registry_mem {n : String} {m : Maker} (h : (n, m) ∈ Command.registry.entries) :
    ∃ ty, m = .table (.builtin ty) ∧ n = ty.name := by
  rw [registry_entries] at h
  simp only [List.mem_cons, List.not_mem_nil, or_false, Prod.mk.injEq] at h
  rcases h with ⟨rfl, rfl⟩ | ⟨rfl, rfl⟩ | ⟨rfl, rfl⟩ | ⟨rfl, rfl⟩
  exacts [⟨.heroConf, rfl, rfl⟩, ⟨.itemConf, rfl, rfl⟩, ⟨.taskConf, rfl, rfl⟩,
    ⟨.themeConf, rfl, rfl⟩]

/-- The built-in tables' files sit side by side in a directory, in every codec's format. -/
theorem registry_storable (c : Codec) :
    Storable c.format (Command.registry.entries.map (·.1)) := by
  rw [registry_entries]
  cases c <;> refine ⟨by decide, ?_, ?_, ?_⟩ <;> simp [Files.Path.Plain, Codec.format, Format.ext]

/-- A hub over the program's own registry with nothing set starts every registry table fresh. -/
theorem fresh_entry (mutation : Option Watch) (events : Bool) {n : String} {ty : TableType}
    (hn : (n, Maker.table (.builtin ty)) ∈ Command.registry.entries) :
    (n, Table.fresh (.builtin ty)) ∈ (Hub.create Command.registry ⟨.all, [], mutation, events⟩).fresh :=
  Hub.mem_fresh.mpr ⟨_, List.mem_filter.mpr ⟨hn, rfl⟩, rfl⟩

/-- **The fresh hub serves what its file reads back.** A hub over the program's own registry
with nothing set, loading a directory in a format, serves under each registry name a table of
that name's type holding the payload its file reads back. -/
theorem fresh_serves (mutation : Option Watch) (events : Bool) (fs : Files.Tree) (dir : String)
    (f : Format) (stamp : Stamp) {n : String} {ty : TableType}
    (hn : (n, Maker.table (.builtin ty)) ∈ Command.registry.entries) {p : Payload}
    (hread : ((Table.fresh (.builtin ty)).load fs dir f .unset stamp.tableNanos).1.data = p) :
    ∃ t, ((Hub.create Command.registry ⟨.all, [], mutation, events⟩).load fs ⟨dir, f, []⟩ stamp
      .background).1.get? n = some t ∧ t.kind = .builtin ty ∧ t.data = p := by
  have hacc : (n, Maker.table (.builtin ty)) ∈
      (Hub.create Command.registry ⟨.all, [], mutation, events⟩).accepted :=
    List.mem_filter.mpr ⟨hn, rfl⟩
  obtain ⟨i, t, -, hget, hsame⟩ := Hub.load_get fs ⟨dir, f, []⟩ stamp .background registry_ordered
    (Hub.create_registry_builds _) hacc
  -- under a context never done, a job with nothing set is the table's own run on the options
  -- with nothing set
  have hrun := (runTable_sameLoad n (Table.fresh (.builtin ty)) fs dir f .unset
    stamp.tableNanos).trans hsame
  exact ⟨t, hget, hrun.kind.trans (Table.load_kind _ _ _ _ _ _), hrun.data.trans hread⟩

section RoundTrip

variable {h : Hub} (hreg : h.registry = Command.registry) {fs : Files.Tree} {req : Request}
  {stamp : Stamp} {ctx : Context} {c : Codec} {fs₀ fs₁ : Files.Tree} (hs : fs₀.Sorted)
  (hr : fs₀.RootSane) {dir : String} {paths : List String}
  {dev : Files.Device}
  (hstore : (h.load fs req stamp ctx).1.store dev fs₀ dir c.format .all = .ok (paths, none, fs₁))
  (hcodec : ∀ e ∈ (h.load fs req stamp ctx).1.tables, ReadsBack c e.2.kind e.2.message)
include hreg hs hr hstore hcodec

/-- **Every table of the source was stored and reads back**: it is a built-in table under its
type's name, and a fresh table of that type, reading its file with nothing set, takes its payload
and is done. -/
theorem stored_reads_back {e : String × Table} (he : e ∈ (h.load fs req stamp ctx).1.tables) :
    ∃ ty, (e.1, Maker.table (.builtin ty)) ∈ Command.registry.entries ∧ e.2.kind = .builtin ty ∧
      ∀ nanos, ((Table.fresh (.builtin ty)).load fs₁ dir c.format .unset nanos).1.data =
          e.2.message ∧
        ((Table.fresh (.builtin ty)).load fs₁ dir c.format .unset nanos).2.1.isDone = true := by
  have hb := Hub.builds_of_registry hreg
  have hro : h.registry.Ordered := hreg ▸ registry_ordered
  obtain ⟨k, hk, hek⟩ := Hub.load_kinds fs req stamp ctx hro hb e he
  have hm : (e.1, Maker.table k) ∈ Command.registry.entries := hreg ▸ (List.mem_filter.mp hk).1
  obtain ⟨ty, hty, hname⟩ := registry_mem hm
  cases hty
  -- the store wrote the table's file
  obtain ⟨s, hcur, hts⟩ := Hub.load_current fs req stamp ctx hb
  have hst : Storable c.format (s.tables.map (·.1)) := by
    rw [hts, Hub.load_names fs req stamp ctx hb]
    exact (registry_storable c).sublist (hreg ▸ (List.filter_sublist).map _)
  obtain ⟨bs, hbs, hf⟩ := Hub.store_writes hcur hs hr hst hstore e (hts ▸ he)
  have hread := hcodec e he bs hbs
  rw [hek] at hread
  rw [hname] at hf
  exact ⟨ty, hm, hek, fun nanos => Table.load_filled rfl nanos (loadMessage_unset hf hread)⟩

/-- **The fresh hub serves every stored payload unchanged.** -/
theorem round_trip_payloads (mutation : Option Watch) (events : Bool) (stamp' : Stamp) :
    ∀ e ∈ (h.load fs req stamp ctx).1.tables, ∃ t,
      ((Hub.create Command.registry ⟨.all, [], mutation, events⟩).load fs₁ ⟨dir, c.format, []⟩
        stamp' .background).1.get? e.1 = some t ∧ t.message = e.2.message := by
  intro e he
  obtain ⟨ty, hn, -, hback⟩ := stored_reads_back hreg hs hr hstore hcodec he
  obtain ⟨t, hget, hk, hd⟩ := fresh_serves mutation events fs₁ dir c.format stamp' hn
    (hback stamp'.tableNanos).1
  exact ⟨t, hget, (Table.message_of_builtin hk).trans hd⟩

/-- **The task table's cross-table hook ends alike after the round trip.** The item table it
sees in the fresh hub was read back from the one it saw in the source, so it holds the same rows
and the same index; over the same task rows the hook then settles the same rewards. -/
theorem round_trip_task_hook (mutation : Option Watch) (events : Bool) (stamp' : Stamp)
    {i i' : Nat} {T T' : Table} (hk : T.kind = .builtin .taskConf)
    (hk' : T'.kind = .builtin .taskConf) (hd : T'.data = T.data)
    (hcross : (T.afterAll (hookView (h.loaded fs req stamp ctx)
      (h.load fs req stamp ctx).1.tables i)).all (·.2.isDone) = true) :
    (T'.afterAll (hookView
      ((Hub.create Command.registry ⟨.all, [], mutation, events⟩).loaded fs₁ ⟨dir, c.format, []⟩
        stamp' .background)
      ((Hub.create Command.registry ⟨.all, [], mutation, events⟩).load fs₁ ⟨dir, c.format, []⟩
        stamp' .background).1.tables i')).all (·.2.isDone) = true := by
  set h' : Hub := Hub.create Command.registry ⟨.all, [], mutation, events⟩
  set req' : Request := ⟨dir, c.format, []⟩
  obtain ⟨it, hget, hitk, hj⟩ := (Table.afterAll_task_isDone hk _).mp hcross
  obtain ⟨hitm, hidx⟩ := Hub.view_item fs req stamp ctx (hreg ▸ registry_ordered)
    (Hub.builds_of_registry hreg) hget hitk
  obtain ⟨ty, hn, hkit, hback⟩ := stored_reads_back hreg hs hr hstore hcodec hitm
  obtain rfl : ty = .itemConf := by rw [hitk] at hkit; cases hkit; rfl
  -- the fresh hub's item table holds the same rows, hence the same index
  have hitdata : (loadJob fs₁ dir c.format (h'.loadOptions req') none stamp'.tableNanos
      TableType.itemConf.name (Table.fresh (.builtin .itemConf))).1.data = it.data :=
    ((loadJob_data _ _ _ _ _ _ _).trans (hback _).1).trans (Table.message_of_builtin hitk)
  obtain ⟨j, hfj⟩ := List.mem_iff_getElem?.mp (fresh_entry mutation events hn)
  have hmem : (TableType.itemConf.name, (loadJob fs₁ dir c.format (h'.loadOptions req') none
      stamp'.tableNanos TableType.itemConf.name (Table.fresh (.builtin .itemConf))).1) ∈
      h'.loaded fs₁ req' stamp' .background :=
    List.mem_of_getElem? (i := j) (by rw [Hub.loaded_getElem?, hfj]; rfl)
  have hget' := Hub.view_item_get fs₁ req' stamp' .background registry_ordered
    (Hub.create_registry_builds _) i' hmem (by simp [Table.fresh])
  refine (Table.afterAll_task_isDone hk' _).mpr ⟨_, hget', by simp [Table.fresh], ?_⟩
  rw [loadJob_index _ _ _ _ _ _ _ (by decide), hitdata, ← hidx, hd]
  exact hj

/-- **A table that loaded without a fault loads back without one.** Its own load reads the
stored payload and is done; its own hook ends as it did on the same data; and the task table's
cross-table hook finds the item table read back with the index it had. -/
theorem round_trip_faults (mutation : Option Watch) (events : Bool) (stamp' : Stamp)
    {r : TableReport} (hrep : r ∈ (h.load fs req stamp ctx).1.reports)
    (hnf : r.fault = none) :
    ∃ r' ∈ ((Hub.create Command.registry ⟨.all, [], mutation, events⟩).load fs₁
      ⟨dir, c.format, []⟩ stamp' .background).1.reports, r'.name = r.name ∧ r'.fault = none := by
  have hb := Hub.builds_of_registry hreg
  have hro : h.registry.Ordered := hreg ▸ registry_ordered
  set h' : Hub := Hub.create Command.registry ⟨.all, [], mutation, events⟩
  set req' : Request := ⟨dir, c.format, []⟩
  have hb' : h'.Builds := Hub.create_registry_builds _
  -- the source report, its table's fresh entry, and why it has no fault
  obtain ⟨i, e, he, hri, hname⟩ := Hub.report_at fs req stamp ctx hb hrep
  obtain ⟨r₀, hr₀, hiff⟩ := Hub.load_report_fault fs req stamp ctx hro hb he
  obtain rfl : r = r₀ := Option.some.inj (hri.symm.trans hr₀)
  obtain ⟨⟨hnone, -, hown⟩, hcross⟩ := hiff.mp hnf
  -- the table published there was stored, and reads back
  obtain ⟨t, hti, hsame⟩ := Hub.load_table_at fs req stamp ctx hro hb he
  rw [hnone] at hsame hcross
  obtain ⟨ty, hn, hk, hback⟩ :=
    stored_reads_back hreg hs hr hstore hcodec (List.mem_of_getElem? hti)
  dsimp only at hn hk hback
  obtain ⟨k, -, hek⟩ := Hub.mem_fresh.mp (List.mem_of_getElem? he)
  obtain rfl : k = .builtin ty := by
    simpa [hek, Table.fresh] using hsame.kind.symm.trans hk
  obtain ⟨name, t₀⟩ := e
  dsimp only at hek hname hown hcross hsame
  subst hek hname
  have hdata : t.message = (loadJob fs req.dir req.format (h.loadOptions req) none
      stamp.tableNanos r.name (Table.fresh (.builtin ty))).1.data :=
    (Table.message_of_builtin hk).trans hsame.data
  -- the fresh hub's job on that table reads the same payload back
  have hdata' : (loadJob fs₁ dir c.format (h'.loadOptions req') none stamp'.tableNanos r.name
      (Table.fresh (.builtin ty))).1.data = t.message :=
    (loadJob_data _ _ _ _ _ _ _).trans (hback _).1
  -- its report stands at the table's own position there
  obtain ⟨i', he'⟩ := List.mem_iff_getElem?.mp (fresh_entry mutation events hn)
  obtain ⟨r', hr', hiff'⟩ :=
    Hub.load_report_fault fs₁ req' stamp' .background registry_ordered hb' he'
  refine ⟨r', List.mem_of_getElem? hr', Hub.report_name_at _ _ _ _ hb' he' hr', hiff'.mpr
    ⟨⟨rfl, (hback _).2, ?_⟩, ?_⟩⟩
  · -- its own hook ends as the source's did, on the same data
    refine (Table.afterLoad_isDone_congr ?_ ?_).trans hown
    · simp
    · rw [← loadJob_data, ← loadJob_data]
      exact hdata'.trans hdata
  · -- its cross-table hook: only the task table has one
    dsimp only
    by_cases htask : ty = .taskConf
    · subst htask
      exact round_trip_task_hook hreg hs hr hstore hcodec mutation events stamp'
        (by simp [Table.fresh]) (by simp [Table.fresh]) (hdata'.trans hdata) hcross
    · refine Table.afterAll_all_of_noCross ?_ _ _
      rw [loadJob_kind]
      cases ty <;> simp_all [Table.fresh, Kind.hasCrossHook]

end RoundTrip

end ConfigTables.Hub
