import Mathlib
import ConfigTables.Proofs.RowIndexes
/-!
# The rewards of the task table

Once every table of a load has finished, the task table's cross-table hook looks up the reward
items of its tasks in the item table of the view: for every present task in file order and every
reward id it lists, in order, the item's row position is added to the task id's rewards, and an
id the item index does not hold is reported. The hook fails with the reports joined, or, when
the view holds no built-in item table, with `TaskConf requires ItemConf` and its rewards left
as they were.

* §1 — the two nested walks of the hook are one walk over the task's rewards
  (`rewardsOf_eq`).
* §2 — an item index its own hook built holds present rows only (`IndexesPresent`), so a
  position it holds is a row `Get` finds. Every item table a load's cross-table hooks see has
  such an index (`Hub.view_item`).
* §3 — `afterAll_resolves_rewards`: the rewards of a task id are the item rows `Get` finds for
  the reward ids of the present tasks with that id, in file and listed order; the hook is done
  exactly when every reward is found, and otherwise reports every one that is not, in order.
-/

namespace ConfigTables

/-! ## §1 — the walk over the rewards -/

/-- A walk that, element by element, adds pairs to a group and appends faults adds and appends
them all, in order. -/
theorem foldl_collect {α κ ν : Type} [DecidableEq κ]
    (f : Group κ ν × List Fault → α → Group κ ν × List Fault)
    (pairs : α → List (κ × ν)) (faults : α → List Fault)
    (hf : ∀ acc a, f acc a = (acc.1.addAll (pairs a), acc.2 ++ faults a)) :
    ∀ (l : List α) (acc : Group κ ν × List Fault),
      l.foldl f acc = (acc.1.addAll (l.flatMap pairs), acc.2 ++ l.flatMap faults) := by
  intro l
  induction l with
  | nil => intro acc; simp
  | cons a l ih =>
    intro acc
    rw [List.foldl_cons, ih, hf]
    simp [Group.addAll_append]

/-- The rewards of one task that the item index holds, as (task id, item position), in the
order the task lists them. -/
def rewardHits (items : Index Int Nat) (fs : List Datum) : List (Int × Nat) :=
  (fieldInts fs 2).filterMap fun rid => (items.get? rid).map (fieldInt fs 0, ·)

/-- The rewards of one task that the item index does not hold, as (task id, reward id), in the
order the task lists them. -/
def rewardMisses (items : Index Int Nat) (fs : List Datum) : List (Int × Int) :=
  ((fieldInts fs 2).filter fun rid => (items.get? rid).isNone).map (fieldInt fs 0, ·)

/-- The report of a reward that is not an item: the task and the missing key. -/
def rewardFault (miss : Int × Int) : Fault :=
  .wrap ("task " ++ toString miss.1 ++ " reward: ") (keyFault "ItemConf" (toString miss.2)) ""

/-- Over the rows of a table, what the present rows give, in order. -/
theorem flatMap_getD_map {β : Type} (h : List Datum → List β) (rows : List (Option (List Datum))) :
    rows.flatMap (fun row => (row.map h).getD []) = (rows.filterMap id).flatMap h := by
  induction rows with
  | nil => rfl
  | cons row rows ih => cases row <;> simp [ih]

/-- What the elements that pass a test give, one by one, is what they give once kept. -/
theorem flatMap_ite_nil {α β : Type} (p : α → Bool) (g : α → List β) (l : List α) :
    l.flatMap (fun a => if p a then g a else []) = (l.filter p).flatMap g := by
  induction l with
  | nil => rfl
  | cons a l ih => by_cases h : p a <;> simp [h, ih]

/-- Keeping the elements that pass a test, one by one, keeps them in order. -/
theorem flatMap_if_singleton {α β : Type} (p : α → Bool) (f : α → β) (l : List α) :
    l.flatMap (fun a => if p a then [f a] else []) = (l.filter p).map f := by
  rw [flatMap_ite_nil, List.map_eq_flatMap]

/-- **The hook's walk is one walk over the rewards**: the positions it adds are the hits of the
present tasks in file order, and the faults it reports are their misses, in the same order. -/
theorem rewardsOf_eq (tasks : List (Option (List Datum))) (items : Index Int Nat) :
    rewardsOf tasks items = (Group.empty.addAll ((tasks.filterMap id).flatMap (rewardHits items)),
      ((tasks.filterMap id).flatMap (rewardMisses items)).map rewardFault) := by
  unfold rewardsOf
  refine (foldl_collect _ (fun row => (row.map (rewardHits items)).getD [])
    (fun row => (row.map fun fs => (rewardMisses items fs).map rewardFault).getD []) ?_ _ _).trans ?_
  · intro acc row
    cases row with
    | none => simp
    | some fs =>
      -- one task: its rewards one by one, each a hit or a miss
      dsimp only
      refine (foldl_collect _ (fun rid => ((items.get? rid).map (fieldInt fs 0, ·)).toList)
        (fun rid => if (items.get? rid).isNone then [rewardFault (fieldInt fs 0, rid)] else [])
        ?_ _ _).trans ?_
      · intro acc rid
        cases items.get? rid <;> simp [Group.addAll, rewardFault]
      · congr 2
        · simp [rewardHits, List.filterMap_eq_flatMap_toList]
        · simp only [flatMap_if_singleton, rewardMisses, List.map_map]
          rfl
  · simp [flatMap_getD_map, List.map_flatMap]

/-! ## §2 — positions the item index holds -/

namespace Hub.Table

open RowIndex

/-- Every position an item index holds is a present row. -/
def IndexesPresent (items : Table) : Prop :=
  ∀ id i, items.index.byId.get? id = some i → ∃ fs, items.data.rows[i]? = some (some fs)

/-- A position the index of the present rows `pre` holds is the position of one of them. -/
theorem mem_zipIdx_of_get?_ofRows {ty : TableType} {pre : List (List Datum)} {id : Int}
    {i : Nat} (h : (ofRows ty pre).byId.get? id = some i) : ∃ fs, (fs, i) ∈ pre.zipIdx := by
  simp only [Index.get?, ofRows, idEntries, List.find?_map, Option.map_map] at h
  obtain ⟨p, hp, hpi⟩ := Option.map_eq_some_iff.mp h
  refine ⟨p.1, ?_⟩
  rw [← hpi]
  exact List.mem_of_find?_eq_some hp

/-- A position the index of the present rows before `q` holds is a present row. -/
theorem present_of_get?_ofRows {t : Table} {ty : TableType} {pre : List (List Datum)}
    {q : List (Option (List Datum))} (h : t.data.rows = pre.map some ++ q) {id : Int} {i : Nat}
    (hget : (ofRows ty pre).byId.get? id = some i) : ∃ fs, t.data.rows[i]? = some (some fs) := by
  obtain ⟨fs, hfs⟩ := mem_zipIdx_of_get?_ofRows hget
  exact ⟨fs, rows_getElem?_of_mem_zipIdx h hfs⟩

/-- **An index a row table's own hook built holds present rows only**, whether its walk went
through or stopped at an offending row. -/
theorem indexesPresent_of_build {items : Table} {ty : TableType}
    (h : items.index = (build ty 0 .empty items.data.rows).1) : IndexesPresent items := by
  intro id i hget
  rcases build_cases ty items.data.rows with ⟨hw, hb⟩ | ⟨pre, r, post, hrows, -, hr⟩
  · rw [h, hb] at hget
    refine present_of_get?_ofRows (q := []) ?_ hget
    rw [List.append_nil]
    exact eq_map_some_of_forall_isSome hw.1
  · rcases hr with ⟨rfl, hb⟩ | ⟨fs, rfl, -, hb⟩
    · rw [h, hb] at hget
      exact present_of_get?_ofRows hrows hget
    · rw [h, hb, Index.get?_put] at hget
      split_ifs at hget
      · -- the repeated id points at the later row, right after `pre`
        cases hget
        exact ⟨fs, rows_getElem?_length hrows⟩
      · exact present_of_get?_ofRows hrows hget

/-- What `Get` finds is the row the index points at. -/
theorem toOption_row (t : Table) (id : Int) :
    (t.row id).toOption = (t.index.byId.get? id).bind fun i => (t.data.rows[i]?).bind fun r => r := by
  rcases h : (t.index.byId.get? id).bind (fun i => (t.data.rows[i]?).bind fun r => r) with _ | fs
  · simp only [Table.row, h]
    rfl
  · simp only [Table.row, h]
    rfl

/-- Through an index of present rows, `Get` finds a row exactly when the index holds the id. -/
theorem isSome_toOption_row {items : Table} (hp : IndexesPresent items) (rid : Int) :
    (items.row rid).toOption.isSome = (items.index.byId.get? rid).isSome := by
  rw [toOption_row]
  rcases hg : items.index.byId.get? rid with _ | i
  · rfl
  · obtain ⟨fs, hfs⟩ := hp rid i hg
    simp [hfs]

/-! ## §3 — the task table's hook -/

/-- The reward rows of task id `tid`: over the present tasks with that id, in file order, the
item rows `Get` finds for the reward ids each lists, in order; an id it does not find is
skipped. -/
def rewardRowsOf (items : Table) (tasks : List (Option (List Datum))) (tid : Int) :
    List (List Datum) :=
  ((tasks.filterMap id).filter fun fs => fieldInt fs 0 = tid).flatMap fun fs =>
    (fieldInts fs 2).filterMap fun rid => (items.row rid).toOption

/-- The rewards `Get` does not find, as (task id, reward id), in file order and in the order
each task lists them. -/
def unresolvedRewards (items : Table) (tasks : List (Option (List Datum))) : List (Int × Int) :=
  (tasks.filterMap id).flatMap fun fs =>
    ((fieldInts fs 2).filter fun rid => (items.row rid).toOption.isNone).map (fieldInt fs 0, ·)

/-- What the task table's hook did against the item table `items`, leaving `t'` and ending in
`o`: the data is kept; the rewards of each task id read as the item rows `Get` finds for its
tasks, and are absent exactly when there are none; the hook is done exactly when `Get` finds
every reward of every present task, and otherwise fails with every reward it does not find
reported in order, a not-found fault. -/
structure ResolvesRewards (items t t' : Table) (o : Outcome) : Prop where
  data_eq : t'.data = t.data
  rewards_eq : ∀ tid, items.rowsAt (t'.rewards.get tid) = rewardRowsOf items t.data.rows tid
  absent_iff : ∀ tid, t'.rewards.get? tid = none ↔ rewardRowsOf items t.data.rows tid = []
  done_iff : o = .done ↔
    ∀ fs ∈ t.data.rows.filterMap id, ∀ rid ∈ fieldInts fs 2, ∃ r, items.row rid = .ok r
  failed : unresolvedRewards items t.data.rows ≠ [] →
    o = .failed (.join ((unresolvedRewards items t.data.rows).map rewardFault)) ∧
    (Fault.join ((unresolvedRewards items t.data.rows).map rewardFault)).hasSentinel
      .rowNotFound = true

/-- The task table's hook against a view holding the built-in item table. -/
theorem afterAll_task_of_item {t : Table} (hk : t.kind = .builtin .taskConf) {v : View}
    {items : Table} (hv : v.get? TableType.itemConf.name = some items)
    (hi : items.kind = .builtin .itemConf) :
    t.afterAll v = some ({ t with rewards := (rewardsOf t.data.rows items.index.byId).1 },
      (joinFaults (rewardsOf t.data.rows items.index.byId).2).elim .done .failed) := by
  obtain ⟨k, d, p, l, i, r, o⟩ := items
  dsimp only at hi
  subst hi
  unfold Table.afterAll
  rw [hk]
  dsimp only
  rw [hv]
  dsimp only
  rcases joinFaults (rewardsOf t.data.rows i.byId).2 with _ | e <;> rfl

/-- **Without the built-in item table in view, the task table's hook fails** and leaves the
table as it was. -/
theorem afterAll_task_without_item {t : Table} (hk : t.kind = .builtin .taskConf) {v : View}
    (hv : ∀ items, v.get? TableType.itemConf.name = some items → items.kind ≠ .builtin .itemConf) :
    t.afterAll v = some (t, .failed (.text "TaskConf requires ItemConf")) := by
  unfold Table.afterAll
  rw [hk]
  dsimp only
  split
  · rename_i data path loaded index rewards observed hit
    exact absurd rfl (hv _ hit)
  · simp [Table.name, hk, Kind.name, TableType.name]

theorem fst_of_mem_rewardHits {items : Index Int Nat} {fs : List Datum} {p : Int × Nat}
    (h : p ∈ rewardHits items fs) : p.1 = fieldInt fs 0 := by
  simp only [rewardHits, List.mem_filterMap, Option.map_eq_some_iff] at h
  obtain ⟨rid, -, i, -, rfl⟩ := h
  rfl

theorem map_snd_rewardHits (items : Index Int Nat) (fs : List Datum) :
    (rewardHits items fs).map (·.2) = (fieldInts fs 2).filterMap items.get? := by
  simp only [rewardHits, List.map_filterMap, Option.map_map]
  congr 1
  funext rid
  cases items.get? rid <;> rfl

/-- The rewards of one task id, as positions, are the positions of its tasks' hits. -/
theorem rewards_get (tasks : List (Option (List Datum))) (items : Index Int Nat) (tid : Int) :
    (rewardsOf tasks items).1.get tid =
      ((tasks.filterMap id).filter (fun fs => fieldInt fs 0 = tid)).flatMap fun fs =>
        (fieldInts fs 2).filterMap items.get? := by
  rw [rewardsOf_eq, Group.get_addAll, Group.get_empty, List.nil_append, List.filter_flatMap,
    List.map_flatMap, ← flatMap_ite_nil]
  congr 1
  funext fs
  -- every hit of a task carries the task's id
  by_cases hid : fieldInt fs 0 = tid
  · rw [if_pos (by simpa using hid), List.filter_eq_self.mpr
      (fun p hp => by simp [fst_of_mem_rewardHits hp, hid]), map_snd_rewardHits]
  · rw [if_neg (by simpa using hid), List.filter_eq_nil_iff.mpr
      (fun p hp => by simp [fst_of_mem_rewardHits hp, hid])]
    rfl

/-- The rewards of a task id are absent exactly when no position was added under it. -/
theorem rewards_get?_eq_none_iff (tasks : List (Option (List Datum))) (items : Index Int Nat)
    (tid : Int) :
    (rewardsOf tasks items).1.get? tid = none ↔ (rewardsOf tasks items).1.get tid = [] := by
  rw [rewardsOf_eq, Group.get?_addAll_empty_eq_none_iff, Group.get_addAll, Group.get_empty,
    List.nil_append, List.map_eq_nil_iff, List.filter_eq_nil_iff]
  simp

/-- Positions that each hold a present row read as no rows only when there are none. -/
theorem rowsAt_eq_nil_iff {t : Table} {ps : List Nat}
    (h : ∀ i ∈ ps, ∃ fs, t.data.rows[i]? = some (some fs)) : t.rowsAt ps = [] ↔ ps = [] := by
  rw [Table.rowsAt, List.filterMap_eq_nil_iff]
  constructor
  · intro hnone
    rcases ps with _ | ⟨i, ps⟩
    · rfl
    · obtain ⟨fs, hfs⟩ := h i List.mem_cons_self
      simpa [hfs] using hnone i List.mem_cons_self
  · rintro rfl
    simp

/-- Joined faults end a hook as done exactly when there are none. -/
theorem elim_joinFaults_eq_done (l : List Fault) :
    (joinFaults l).elim Outcome.done Outcome.failed = .done ↔ l = [] := by
  cases l <;> simp [joinFaults]

theorem unresolvedRewards_eq_nil_iff (items : Table) (tasks : List (Option (List Datum))) :
    unresolvedRewards items tasks = [] ↔
      ∀ fs ∈ tasks.filterMap id, ∀ rid ∈ fieldInts fs 2, ∃ r, items.row rid = .ok r := by
  simp only [unresolvedRewards, List.flatMap_eq_nil_iff, List.map_eq_nil_iff,
    List.filter_eq_nil_iff]
  -- a reward is resolved exactly when `Get` finds it
  have hfound : ∀ rid, (¬ (items.row rid).toOption.isNone = true) ↔ ∃ r, items.row rid = .ok r := by
    intro rid
    cases items.row rid <;> simp [Except.toOption]
  simp only [hfound]

/-- A report of unresolved rewards is a not-found fault. -/
theorem hasSentinel_join_rewardFaults {l : List (Int × Int)} (h : l ≠ []) :
    (Fault.join (l.map rewardFault)).hasSentinel .rowNotFound = true := by
  obtain ⟨m, ms, rfl⟩ := List.exists_cons_of_ne_nil h
  simp [Fault.hasSentinel, Fault.nodes, Fault.nodesList, rewardFault, keyFault]

/-- **The task table's hook resolves the rewards**, for every task table and every view of a
load: when the view holds the built-in item table, its index as the item table's own hook built
it, the rewards of each task id read as the concatenation, over the present tasks with that id
in file order, of the item rows `Get` finds for the reward ids each lists, in order (ids not
found skipped, and no rewards at all when nothing was found); the hook is done exactly when
every reward of every present task is found, and otherwise fails with a not-found fault listing
each reward not found, with its task, in order. When the view holds no built-in item table, the
hook fails with `TaskConf requires ItemConf` and leaves the rewards as they were. -/
theorem afterAll_resolves_rewards {t : Table} (hk : t.kind = .builtin .taskConf) (v : View) :
    (∀ items, v.get? TableType.itemConf.name = some items → items.kind = .builtin .itemConf →
        items.index = (build .itemConf 0 .empty items.data.rows).1 →
      ∃ t' o, t.afterAll v = some (t', o) ∧ ResolvesRewards items t t' o) ∧
    ((∀ items, v.get? TableType.itemConf.name = some items → items.kind ≠ .builtin .itemConf) →
      t.afterAll v = some (t, .failed (.text "TaskConf requires ItemConf"))) := by
  refine ⟨fun items hv hi hidx => ?_, afterAll_task_without_item hk⟩
  have hp := indexesPresent_of_build hidx
  -- a reward the index misses is one `Get` does not find
  have hmisses : (t.data.rows.filterMap id).flatMap (rewardMisses items.index.byId) =
      unresolvedRewards items t.data.rows := by
    have hmiss : ∀ rid, (items.index.byId.get? rid).isNone = (items.row rid).toOption.isNone := by
      intro rid
      rw [← Option.not_isSome, ← Option.not_isSome, isSome_toOption_row hp]
    unfold unresolvedRewards rewardMisses
    simp only [hmiss]
  have hout : (joinFaults (rewardsOf t.data.rows items.index.byId).2) =
      joinFaults ((unresolvedRewards items t.data.rows).map rewardFault) := by
    rw [rewardsOf_eq, hmisses]
  -- the positions added read as the rows `Get` finds
  have hread : ∀ tid, items.rowsAt ((rewardsOf t.data.rows items.index.byId).1.get tid) =
      rewardRowsOf items t.data.rows tid := by
    intro tid
    rw [rewards_get, Table.rowsAt, rewardRowsOf, List.filterMap_flatMap]
    congr 1
    funext fs
    rw [List.filterMap_filterMap]
    congr 1
    funext rid
    rw [toOption_row]
  -- and each of them is a present item row
  have hpresent : ∀ tid, ∀ i ∈ (rewardsOf t.data.rows items.index.byId).1.get tid,
      ∃ fs, items.data.rows[i]? = some (some fs) := by
    intro tid i hi
    rw [rewards_get] at hi
    obtain ⟨fs, -, hi⟩ := List.mem_flatMap.mp hi
    obtain ⟨rid, -, hget⟩ := List.mem_filterMap.mp hi
    exact hp rid i hget
  refine ⟨_, _, afterAll_task_of_item hk hv hi, ⟨rfl, hread, fun tid => ?_, ?_, ?_⟩⟩
  · dsimp only
    rw [rewards_get?_eq_none_iff, ← hread, rowsAt_eq_nil_iff (hpresent tid)]
  · rw [hout, elim_joinFaults_eq_done, List.map_eq_nil_iff, unresolvedRewards_eq_nil_iff]
  · intro hne
    refine ⟨?_, hasSentinel_join_rewardFaults hne⟩
    rw [hout]
    obtain ⟨m, ms, hms⟩ := List.exists_cons_of_ne_nil hne
    rw [hms]
    rfl

/-- A task listing a sword and a missing item, against an item table holding the sword: the
hook applies at a view of both. -/
theorem missing_reward_resolved :
    let rows : List Datum := [.ref (some (.record [.int 100, .text "Sword", .text "weapon", .int 0]))]
    let items : Table := { Table.fresh (.builtin .itemConf) with
      data := .record .items [.list (some rows)],
      index := (build .itemConf 0 .empty (Payload.record .items [.list (some rows)]).rows).1 }
    let t : Table := { Table.fresh (.builtin .taskConf) with
      data := .record .tasks [.list (some [.ref (some (.record
        [.int 1, .text "T", .list (some [.int 100, .int 404])]))])] }
    let v : View := ⟨.loading, [(TableType.itemConf.name, items), (TableType.taskConf.name, t)]⟩
    t.kind = .builtin .taskConf ∧
    (∀ items, v.get? TableType.itemConf.name = some items → items.kind = .builtin .itemConf →
        items.index = (build .itemConf 0 .empty items.data.rows).1 →
      ∃ t' o, t.afterAll v = some (t', o) ∧ ResolvesRewards items t t' o) ∧
    ((∀ items, v.get? TableType.itemConf.name = some items → items.kind ≠ .builtin .itemConf) →
      t.afterAll v = some (t, .failed (.text "TaskConf requires ItemConf"))) :=
  ⟨rfl, afterAll_resolves_rewards rfl _⟩

end Hub.Table

end ConfigTables
