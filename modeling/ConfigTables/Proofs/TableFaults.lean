import Mathlib
import ConfigTables.Proofs.ReadFailures
import ConfigTables.Proofs.Panics
/-!
# The faults a built-in table reports

A table's report carries the fault of its own job, with its cross-table hook's failure joined
after it. For the built-in tables the hooks fail plainly: a row index stops at an absent row or a
repeated id, the task table misses reward items, and none of these is a table-load failure. So
when a built-in table is read under readable options, its report can fail only as reading a file
fails, as a load whose context is done skips it, or as a hook fails.

* `Fault.mem_nodes_load`, `mem_nodes_hook`, `mem_nodes_join`: the nodes of a fault, one equation
  per constructor that has causes.
* `Table.afterLoad_plain`, `Table.afterAll_plain`: the hooks of the built-in tables fail with no
  table-load failure in the fault; `Table.load_reads`: their load reads.
* `Fault.OnlyReads`: every table-load failure in a fault is a missing file, a file that does not
  parse, or a table skipped because the context was cancelled or past its deadline; and the
  fault is a table-load failure or a failed hook. `loadJob_onlyReads`, `crossFault_onlyReads`: a built-in table's job and report keep it.
* `OnlyReads.hasLoadKind_unknownFormat`, `OnlyReads.loadKind?`: what that says of the fault's kind.
-/

namespace ConfigTables

/-! ## §1 — the nodes of a fault -/

namespace Fault

theorem mem_nodes_load {n : Fault} {k : LoadKind} {t p : String} {c : Option Fault} :
    n ∈ (load k t p c).nodes ↔ n = load k t p c ∨ ∃ x ∈ c, n ∈ x.nodes := by
  cases c <;> simp [nodes]

theorem mem_nodes_hook {n : Fault} {t : String} {s : HookStage} {c : Fault} :
    n ∈ (hook t s c).nodes ↔ n = hook t s c ∨ n ∈ c.nodes := by
  simp [nodes]

theorem mem_nodesList {n : Fault} : ∀ {ps : List Fault}, n ∈ nodesList ps ↔ ∃ x ∈ ps, n ∈ x.nodes
  | [] => by simp [nodesList]
  | p :: ps => by simp [nodesList, mem_nodesList]

theorem mem_nodes_join {n : Fault} {ps : List Fault} :
    n ∈ (join ps).nodes ↔ n = join ps ∨ ∃ x ∈ ps, n ∈ x.nodes := by
  simp [nodes, mem_nodesList]

theorem mem_nodes_wrap {n : Fault} {b a : String} {c : Fault} :
    n ∈ (wrap b c a).nodes ↔ n = wrap b c a ∨ n ∈ c.nodes := by
  simp [nodes]

/-- A condition other than a load kind's says nothing of table loads. -/
theorem loadFree_sentinel {s : Sentinel} (hs : ∀ k, s ≠ .loadKind k) : (sentinel s).LoadFree := by
  intro n hn
  simp only [nodes, List.mem_singleton] at hn
  subst hn
  exact ⟨fun _ _ _ _ => Fault.noConfusion, fun k h => hs k (sentinel.inj h)⟩

/-- A message written around a cause says of table loads what the cause says. -/
theorem loadFree_wrap {b a : String} {c : Fault} (h : c.LoadFree) : (wrap b c a).LoadFree := by
  intro n hn
  rcases mem_nodes_wrap.mp hn with rfl | hn
  · exact ⟨fun _ _ _ _ => Fault.noConfusion, fun _ => Fault.noConfusion⟩
  · exact h n hn

/-- Joined causes that say nothing of table loads say nothing together. -/
theorem loadFree_join {ps : List Fault} (h : ∀ x ∈ ps, x.LoadFree) : (join ps).LoadFree := by
  intro n hn
  rcases mem_nodes_join.mp hn with rfl | ⟨x, hx, hn⟩
  · exact ⟨fun _ _ _ _ => Fault.noConfusion, fun _ => Fault.noConfusion⟩
  · exact h x hx n hn

/-- The first table-load failure of a fault is one of its nodes. -/
theorem load_mem_of_firstLoad? {e : Fault} {k : LoadKind} {t p : String}
    (h : e.firstLoad? = some (k, t, p)) : ∃ c, load k t p c ∈ e.nodes := by
  obtain ⟨n, hn, hf⟩ := List.exists_of_findSome?_eq_some h
  cases n with
  | load k' t' p' c =>
    simp only [Option.some.injEq, Prod.mk.injEq] at hf
    obtain ⟨rfl, rfl, rfl⟩ := hf
    exact ⟨c, hn⟩
  | _ => cases hf

/-- A fault with a failed hook among its nodes has a first one. -/
theorem firstHook?_isSome {e : Fault} {t : String} {s : HookStage} {c : Fault}
    (h : hook t s c ∈ e.nodes) : e.firstHook?.isSome := by
  unfold firstHook?
  rw [List.findSome?_isSome_iff]
  exact ⟨_, h, rfl⟩

end Fault

/-! ## §2 — the built-in tables' steps -/

/-- **Indexing rows fails plainly**: an absent row or a repeated id, which says nothing of table
loads. -/
theorem RowIndex.build_plain (ty : TableType) :
    ∀ (i : Nat) (acc : RowIndex) (rows : List (Option (List Datum))) (e : Fault),
      (RowIndex.build ty i acc rows).2 = some e → e.LoadFree := by
  intro i acc rows
  induction rows generalizing i acc with
  | nil =>
    intro e h
    cases h
  | cons row rest ih =>
    intro e h
    cases row with
    | none =>
      simp only [RowIndex.build, Option.some.injEq] at h
      subst h
      exact Fault.loadFree_wrap (Fault.loadFree_sentinel fun _ => Sentinel.noConfusion)
    | some fs =>
      simp only [RowIndex.build] at h
      split at h
      · -- a repeated id stops the index with a plain text
        obtain rfl := Option.some.inj h
        exact Fault.loadFree_text _
      · exact ih _ _ e h

/-- Every missing reward item is reported plainly. The invariant of both folds: every fault
collected so far says nothing of table loads. -/
theorem rewardsOf_plain (tasks : List (Option (List Datum))) (items : Index Int Nat) :
    ∀ e ∈ (rewardsOf tasks items).2, e.LoadFree := by
  unfold rewardsOf
  refine List.foldlRecOn
    (motive := fun acc : Group Int Nat × List Fault => ∀ e ∈ acc.2, e.LoadFree) tasks _
    (fun e he => by cases he) ?_
  intro acc hacc row _
  cases row with
  | none => exact hacc
  | some fs =>
    refine List.foldlRecOn
      (motive := fun acc : Group Int Nat × List Fault => ∀ e ∈ acc.2, e.LoadFree) _ _ hacc ?_
    intro acc' hacc' rid _
    split
    · exact hacc'
    · intro e he
      rcases List.mem_append.mp he with he | he
      · exact hacc' e he
      · rw [List.mem_singleton.mp he]
        exact Fault.loadFree_wrap (Fault.loadFree_wrap
          (Fault.loadFree_sentinel fun _ => Sentinel.noConfusion))

theorem joinFaults_plain {fs : List Fault} (h : ∀ e ∈ fs, e.LoadFree) :
    ∀ j, joinFaults fs = some j → j.LoadFree := by
  intro j hj
  cases fs with
  | nil => cases hj
  | cons x xs =>
    cases hj
    exact Fault.loadFree_join h

theorem TableType.blank_byRef (ty : TableType) : ty.blank.byRef = true := by
  cases ty <;> rfl

theorem TableType.name_no_slash (ty : TableType) : '/' ∉ ty.name.toList := by
  cases ty <;> decide

namespace Hub

/-- **A built-in table's own hook fails plainly.** -/
theorem Table.afterLoad_plain {t : Table} {ty : TableType} (hk : t.kind = .builtin ty)
    {t' : Table} {out : Outcome} (h : t.afterLoad = some (t', out)) :
    ∀ x, out.fault? = some x → x.LoadFree := by
  intro x hx
  unfold Table.afterLoad at h
  rw [hk] at h
  cases ty with
  | themeConf => cases h
  | _ =>
    dsimp only at h
    rcases hb : RowIndex.build _ 0 RowIndex.empty t.data.rows with ⟨index, fault⟩
    rw [hb] at h
    simp only [Option.some.injEq, Prod.mk.injEq] at h
    obtain ⟨-, rfl⟩ := h
    cases fault with
    | none => cases hx
    | some e =>
      obtain rfl : e = x := Option.some.inj hx
      exact RowIndex.build_plain _ 0 RowIndex.empty t.data.rows e (by rw [hb])

/-- **A built-in table's cross-table hook fails plainly**, against any view. -/
theorem Table.afterAll_plain {t : Table} {ty : TableType} (hk : t.kind = .builtin ty) {v : View}
    {t' : Table} {out : Outcome} (h : t.afterAll v = some (t', out)) :
    ∀ x, out.fault? = some x → x.LoadFree := by
  intro x hx
  unfold Table.afterAll at h
  rw [hk] at h
  cases ty with
  | taskConf =>
    dsimp only at h
    split at h
    · next _ _ _ _ items _ _ _ =>
      rcases hr : rewardsOf t.data.rows items.byId with ⟨rewards, faults⟩
      rw [hr] at h
      simp only [Option.some.injEq, Prod.mk.injEq] at h
      obtain ⟨-, rfl⟩ := h
      have hplain : ∀ e ∈ faults, e.LoadFree := by
        have := rewardsOf_plain t.data.rows items.byId
        rwa [hr] at this
      rcases hj : joinFaults faults with _ | j
      · rw [hj] at hx
        cases hx
      · rw [hj] at hx
        obtain rfl : j = x := Option.some.inj hx
        exact joinFaults_plain hplain j hj
    · -- no item table in the view: a plain text
      simp only [Option.some.injEq, Prod.mk.injEq] at h
      obtain ⟨-, rfl⟩ := h
      obtain rfl := Option.some.inj hx
      exact Fault.loadFree_text _
  | heroConf | itemConf | themeConf => cases h

/-- **A built-in table's load reads** under readable options and a loadable format: it is done,
or it failed reading a file. -/
theorem Table.load_reads {t : Table} {ty : TableType} (hk : t.kind = .builtin ty)
    {o : Load.TableOptions} (ho : o.Readable) (fs : Files.Tree) (dir : String) {f : Format}
    (hf : f.loadable = true) (nanos : Int) :
    (t.load fs dir f o nanos).2.1 = .done ∨
      ∃ e, (t.load fs dir f o nanos).2.1 = .failed e ∧ e.IsRead := by
  have hblank : t.kind.blank.byRef = true := by
    rw [hk]
    exact TableType.blank_byRef ty
  have hname : '/' ∉ t.name.toList := by
    show '/' ∉ t.kind.name.toList
    rw [hk]
    exact TableType.name_no_slash ty
  have hreads := Load.loadMessage_reads ho fs hblank hname dir hf
  unfold Table.load
  rw [hk]
  dsimp only
  unfold Table.decode
  dsimp only
  rcases hs : (Load.loadMessage fs t.kind.blank t.name dir f (some o)).step with p | ⟨p, e⟩ | v
  · exact .inl rfl
  · rw [hs] at hreads
    exact .inr ⟨e, rfl, hreads⟩
  · rw [hs] at hreads
    cases hreads

end Hub

/-! ## §3 — what a table reports -/

/-- What a table may report failing with when its options are readable: every table-load failure
in the fault is a missing file, a file that does not parse, or a table skipped unread because the
load's context was cancelled or past its deadline; and the fault is a table-load failure or a
failed hook. -/
structure Fault.OnlyReads (e : Fault) : Prop where
  kinds : ∀ k t p c, Fault.load k t p c ∈ e.nodes →
    k = .notFound ∨ k = .parse ∨ (k = .illegalParam ∧
      (c = some (.sentinel .canceled) ∨ c = some (.sentinel .deadlineExceeded)))
  found : (∃ k t p c, Fault.load k t p c ∈ e.nodes) ∨ ∃ t s c, Fault.hook t s c ∈ e.nodes
  bare : ∀ k, Fault.sentinel (.loadKind k) ∉ e.nodes

namespace Fault

theorem IsRead.onlyReads {e : Fault} (h : e.IsRead) : e.OnlyReads := by
  cases e with
  | load k t p c =>
    obtain ⟨hk, hc⟩ := h
    refine ⟨?_, .inl ⟨k, t, p, c, mem_nodes_load.mpr (.inl rfl)⟩, fun k' hm => ?_⟩
    · intro k' t' p' c' hm
      rcases mem_nodes_load.mp hm with heq | ⟨x, hx, hn⟩
      · cases heq
        rcases hk with rfl | rfl
        · exact .inl rfl
        · exact .inr (.inl rfl)
      · -- nothing under a read failure is a table-load failure
        exact absurd rfl ((hc x hx _ hn).1 k' t' p' c')
    · rcases mem_nodes_load.mp hm with heq | ⟨x, hx, hn⟩
      · cases heq
      · exact (hc x hx _ hn).2 k' rfl
  | _ => cases h

/-- A hook that failed plainly. -/
theorem onlyReads_hook {c : Fault} (hc : c.LoadFree) (t : String) (s : HookStage) :
    (hook t s c).OnlyReads := by
  refine ⟨?_, .inr ⟨t, s, c, mem_nodes_hook.mpr (.inl rfl)⟩, fun k hm => ?_⟩
  · intro k t' p c' hm
    rcases mem_nodes_hook.mp hm with heq | hn
    · cases heq
    · exact absurd rfl ((hc _ hn).1 k t' p c')
  · rcases mem_nodes_hook.mp hm with heq | hn
    · cases heq
    · exact (hc _ hn).2 k rfl

theorem onlyReads_join {ps : List Fault} (hne : ps ≠ []) (h : ∀ x ∈ ps, x.OnlyReads) :
    (join ps).OnlyReads := by
  constructor
  · intro k t p c hm
    rcases mem_nodes_join.mp hm with heq | ⟨x, hx, hn⟩
    · cases heq
    · exact (h x hx).kinds k t p c hn
  · obtain ⟨x, hx⟩ := List.exists_mem_of_ne_nil ps hne
    rcases (h x hx).found with ⟨k, t, p, c, hn⟩ | ⟨t, s, c, hn⟩
    · exact .inl ⟨k, t, p, c, mem_nodes_join.mpr (.inr ⟨x, hx, hn⟩)⟩
    · exact .inr ⟨t, s, c, mem_nodes_join.mpr (.inr ⟨x, hx, hn⟩)⟩
  · intro k hm
    rcases mem_nodes_join.mp hm with heq | ⟨x, hx, hn⟩
    · cases heq
    · exact (h x hx).bare k hn

/-- Such a fault names no unknown format anywhere. -/
theorem OnlyReads.hasLoadKind_unknownFormat {e : Fault} (h : e.OnlyReads) :
    e.hasLoadKind .unknownFormat = false := by
  unfold hasLoadKind
  simp only [LoadKind.isNamed, Bool.true_and, List.any_eq_false]
  intro n hn
  cases n with
  | load k t p c =>
    rcases h.kinds k t p c hn with rfl | rfl | ⟨rfl, -⟩ <;> simp
  | sentinel s =>
    -- no condition of a load kind is in it
    cases s with
    | loadKind k => exact absurd hn (h.bare k)
    | _ => simp
  | _ => simp

/-- Such a fault's kind is a missing file, a file that does not parse or a skipped table; or it
has none, and then it is a failed hook. -/
theorem OnlyReads.loadKind? {e : Fault} (h : e.OnlyReads) :
    e.loadKind? = some .notFound ∨ e.loadKind? = some .parse ∨ e.loadKind? = some .illegalParam ∨
      (e.loadKind? = none ∧ e.firstHook?.isSome) := by
  unfold Fault.loadKind?
  rcases hfl : e.firstLoad? with _ | ⟨k, t, p⟩
  · rcases h.found with ⟨k, t, p, c, hn⟩ | ⟨t, s, c, hn⟩
    · exact absurd hn ((firstLoad?_eq_none_iff e).mp hfl k t p c)
    · exact .inr (.inr (.inr ⟨rfl, firstHook?_isSome hn⟩))
  · obtain ⟨c, hn⟩ := load_mem_of_firstLoad? hfl
    rcases h.kinds k t p c hn with rfl | rfl | ⟨rfl, -⟩
    · exact .inl rfl
    · exact .inr (.inl rfl)
    · exact .inr (.inr (.inl rfl))

end Fault

namespace Hub

/-- A table skipped because the context was done reports the context's error as an illegal
parameter. -/
theorem skippedFault_onlyReads (name : String) (d : Done) : (skippedFault name d).OnlyReads := by
  refine ⟨?_, .inl ⟨_, _, _, _, Fault.mem_nodes_load.mpr (.inl rfl)⟩, fun k hm => ?_⟩
  · intro k t p c hm
    rcases Fault.mem_nodes_load.mp hm with heq | ⟨x, hx, hn⟩
    · cases heq
      cases d
      · exact .inr (.inr ⟨rfl, .inl rfl⟩)
      · exact .inr (.inr ⟨rfl, .inr rfl⟩)
    · cases hx
      simp [Fault.nodes] at hn
  · cases d <;> simp [skippedFault, Fault.nodes, Done.sentinel] at hm

theorem ownFault_onlyReads (name path : String) {out : Outcome}
    (hout : out = .done ∨ ∃ e, out = .failed e ∧ e.IsRead) {own : Option Outcome}
    (hown : ∀ o ∈ own, ∀ x, o.fault? = some x → x.LoadFree) :
    ∀ e, ownFault name path out own = some e → e.OnlyReads := by
  intro e he
  rcases hout with rfl | ⟨e', rfl, hread⟩
  · -- after a load that was done, only the own hook can fail
    obtain ⟨x, hx, rfl⟩ := Option.map_eq_some_iff.mp he
    obtain ⟨o, ho, hox⟩ := Option.bind_eq_some_iff.mp hx
    exact Fault.onlyReads_hook (hown o ho x hox) name .afterLoad
  · cases he
    exact hread.onlyReads

/-- The cross-table hook's plain failure joined after the table's earlier fault keeps it. -/
theorem crossFault_onlyReads (name : String) {prev : Option Fault}
    (hprev : ∀ e, prev = some e → e.OnlyReads) {hook : Option Fault}
    (hhook : ∀ x, hook = some x → x.LoadFree) :
    ∀ e, crossFault name prev hook = some e → e.OnlyReads := by
  intro e he
  cases hook with
  | none => exact hprev e he
  | some x =>
    cases he
    have hx := Fault.onlyReads_hook (hhook x rfl) name .afterLoadAll
    cases prev with
    | none => exact Fault.onlyReads_join (by simp) (by simpa using hx)
    | some p => exact Fault.onlyReads_join (by simp) (by simpa [hx] using hprev p rfl)

/-- **A built-in table's own job fails only by reading**, by being skipped because the context
was done, or by its own hook, under readable options and a loadable format. -/
theorem loadJob_onlyReads {t : Table} {ty : TableType} (hk : t.kind = .builtin ty)
    (fs : Files.Tree) (dir : String) {f : Format} (hf : f.loadable = true) {opts : Load.Options}
    (done : Option Done) (nanos : Int) {name : String} (ho : (opts.forTable name).Readable) :
    ∀ e, (loadJob fs dir f opts done nanos name t).2.1 = some e → e.OnlyReads := by
  intro e he
  cases done with
  | some d =>
    cases he
    exact skippedFault_onlyReads name d
  | none =>
    rw [loadJob_fault] at he
    refine ownFault_onlyReads name _ (Table.load_reads hk ho fs dir hf nanos) ?_ e he
    intro o ho' x hx
    obtain ⟨⟨t', o'⟩, hl, rfl⟩ := Option.map_eq_some_iff.mp ho'
    exact Table.afterLoad_plain (by rw [Table.load_kind, hk]) hl x hx

end Hub

end ConfigTables
