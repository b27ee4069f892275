import Mathlib
import ConfigTables.Proofs.LoadPhase
/-!
# The cross-table barrier

Once every table of a load has finished its own load and hook, each table's cross-table hook
runs, in name order, against a view of the new tables in state `loading`. This module states
exactly what each hook sees and what the phase leaves.

* `crossStep_eq`: one hook invocation replaces only its own table (by what the hook left) and
  its own report (with the hook's fault joined after the earlier one), and records one span if
  the table has a cross-table hook.
* `crossAll_spec`: **the barrier as a fixed point.** Over tables with distinct names, the hook
  of the table at position `i` runs against `hookView loaded settled i`: the tables before it as
  their own hooks left them, and the tables from it on as the load phase left them. So each
  hook sees every sibling's final post-load state plus what the hooks of smaller names did,
  each hook runs once, and the trail records the hooks in name order.

It rides on the distinct names of an ordered registry (`Hub.accepted_ordered`), which make the
by-name lookups and replacements of `crossStep` hit exactly one position.
-/

namespace ConfigTables.Hub

/-! ## §1 — what a hook leaves -/

/-- A table after its cross-table hook against a view: what the hook left, or the table itself
when it has no such hook. -/
def Table.crossed (t : Table) (v : View) : Table := ((t.afterAll v).map (·.1)).getD t

/-- The fault a step's outcome carries: none when it was done; an abrupt stop is a fault of
its own. -/
def Outcome.fault? : Outcome → Option Fault
  | .done => none
  | .failed e => some e
  | .panicked v => some (.panic v)

/-- A table's report after its cross-table hook returned: the hook's fault, if any, joined
after the table's earlier one. -/
def TableReport.crossed (r : TableReport) (hook : Option (Table × Outcome)) : TableReport :=
  match hook.bind (·.2.fault?) with
  | some e => { r with fault := some (joinAfter r.fault (.hook r.name .afterLoadAll e)) }
  | none => r

/-- The view the cross-table hook of the table at position `i` runs against: the tables before
it as their hooks left them, and from it on as the load phase left them. -/
def hookView (loaded settled : List (String × Table)) (i : Nat) : View :=
  ⟨.loading, settled.take i ++ loaded.drop i⟩

/-- Whether tables of a kind have a cross-table hook: the task table and scripted tables. -/
def Kind.hasCrossHook : Kind → Bool
  | .builtin .taskConf => true
  | .builtin _ => false
  | .scripted _ => true

/-- The table a span records a cross-table hook of, if it records one. -/
def hookTable? (s : Trace.Span) : Option String :=
  match s.name, s.attrs with
  | "hub.ProcessAfterLoadAll", [("confhub.table", .text n)] => some n
  | _, _ => none

/-- A table has a cross-table hook exactly when its kind has one, whatever the view. -/
theorem Table.afterAll_isSome (t : Table) (v : View) :
    (t.afterAll v).isSome = t.kind.hasCrossHook := by
  obtain ⟨k, data, path, loaded, index, rewards, observed⟩ := t
  cases k with
  | builtin ty =>
    cases ty
    case taskConf =>
      -- the task table's hook always returns, with or without the item table in view
      simp only [afterAll]
      split <;> rfl
    all_goals rfl
  | scripted s =>
    obtain ⟨name, load, own, cross, shown⟩ := s
    cases cross <;> rfl

/-- A table after its cross-table hook holds the same load. -/
theorem Table.crossed_sameLoad (t : Table) (v : View) : t.SameLoad (t.crossed v) := by
  unfold crossed
  rcases h : t.afterAll v with _ | ⟨t', o⟩
  · exact .refl t
  · exact afterAll_sameLoad h

@[simp] theorem Table.crossed_kind (t : Table) (v : View) : (t.crossed v).kind = t.kind :=
  (crossed_sameLoad t v).kind

@[simp] theorem TableReport.crossed_name (r : TableReport) (hook : Option (Table × Outcome)) :
    (r.crossed hook).name = r.name := by
  unfold crossed
  split <;> rfl

/-- **A report keeps no fault across the hook exactly when** it had none and the hook, if any,
was done. -/
theorem TableReport.crossed_fault_eq_none (r : TableReport) (hook : Option (Table × Outcome)) :
    (r.crossed hook).fault = none ↔ r.fault = none ∧ hook.all (·.2.isDone) := by
  unfold crossed
  rcases hook with _ | ⟨t, o⟩
  · simp
  · cases o <;> simp [Outcome.fault?, Outcome.isDone]

@[simp] theorem hookTable?_tableSpan (r : TableReport) : hookTable? (tableSpan r) = none := rfl

/-! ## §2 — one hook invocation -/

/-- Looking a name up in a view finds the entry of that name when none comes before it. -/
theorem View.get?_at {s : State} {pre suf : List (String × Table)} {n : String} {t : Table}
    (hpre : ∀ x ∈ pre, x.1 ≠ n) : View.get? ⟨s, pre ++ (n, t) :: suf⟩ n = some t := by
  have hnone : pre.find? (fun e => decide (e.1 = n)) = none :=
    List.find?_eq_none.mpr (fun x hx => by simpa using hpre x hx)
  simp [View.get?, List.find?_append, hnone]

/-- Updating the entries of one key changes exactly the one entry that has it. -/
theorem map_update_at {α : Type} (key : α → String) (g : α → α) {pre suf : List α} {a : α}
    {n : String} (ha : key a = n) (hpre : ∀ x ∈ pre, key x ≠ n)
    (hsuf : ∀ x ∈ suf, key x ≠ n) :
    (pre ++ a :: suf).map (fun x => if key x = n then g x else x) = pre ++ g a :: suf := by
  have hpre' : pre.map (fun x => if key x = n then g x else x) = pre := by
    rw [List.map_congr_left (fun x hx => if_neg (hpre x hx)), List.map_id']
  have hsuf' : suf.map (fun x => if key x = n then g x else x) = suf := by
    rw [List.map_congr_left (fun x hx => if_neg (hsuf x hx)), List.map_id']
  rw [List.map_append, List.map_cons, if_pos ha, hpre', hsuf']

/-- **One hook invocation.** The cross-table step at a name whose entry and report stand once
in the pass replaces exactly that table, by what its hook left against the tables as they are,
and that report, with the hook's fault joined; and it records one hook span exactly when the
table has a cross-table hook. -/
theorem crossStep_eq {p : Pass} {pre suf : List (String × Table)} {preR sufR : List TableReport}
    {n : String} {t : Table} {r : TableReport}
    (ht : p.tables = pre ++ (n, t) :: suf) (hr : p.reports = preR ++ r :: sufR) (hrn : r.name = n)
    (hpre : ∀ x ∈ pre, x.1 ≠ n) (hsuf : ∀ x ∈ suf, x.1 ≠ n)
    (hpreR : ∀ x ∈ preR, x.name ≠ n) (hsufR : ∀ x ∈ sufR, x.name ≠ n) :
    (crossStep p n).tables = pre ++ (n, t.crossed ⟨.loading, p.tables⟩) :: suf ∧
      (crossStep p n).reports = preR ++ r.crossed (t.afterAll ⟨.loading, p.tables⟩) :: sufR ∧
      (crossStep p n).spans.filterMap hookTable? =
        p.spans.filterMap hookTable? ++ (if t.kind.hasCrossHook then [n] else []) := by
  have hget : View.get? ⟨.loading, p.tables⟩ n = some t := by
    rw [ht]
    exact View.get?_at hpre
  have hsome := Table.afterAll_isSome t ⟨.loading, p.tables⟩
  -- the hook's table replaces the one entry of its name
  have htables : ∀ t', p.tables.map (fun e => if e.1 = n then (n, t') else e) =
      pre ++ (n, t') :: suf := fun t' => by
    rw [ht]
    exact map_update_at Prod.fst (fun _ => (n, t')) (a := (n, t)) rfl hpre hsuf
  have hreports : ∀ e, p.reports.map (fun x => if x.name = n then
      { x with fault := some (joinAfter x.fault (.hook n .afterLoadAll e)) } else x) =
      preR ++ { r with fault := some (joinAfter r.fault (.hook n .afterLoadAll e)) } :: sufR :=
    fun e => by
      rw [hr]
      exact map_update_at TableReport.name
        (fun x => { x with fault := some (joinAfter x.fault (.hook n .afterLoadAll e)) })
        hrn hpreR hsufR
  unfold crossStep
  rw [hget, Option.bind_some]
  rcases hh : t.afterAll ⟨.loading, p.tables⟩ with _ | ⟨t', out⟩
  · -- no cross-table hook: nothing changes
    have hc : t.crossed ⟨.loading, p.tables⟩ = t := by simp [Table.crossed, hh]
    rw [hh] at hsome
    refine ⟨by rw [hc, ht], by rw [hr]; rfl, ?_⟩
    simp [← hsome]
  · have hc : t.crossed ⟨.loading, p.tables⟩ = t' := by simp [Table.crossed, hh]
    rw [hh] at hsome
    have hhook : t.kind.hasCrossHook = true := hsome.symm
    rw [hc, hhook]
    cases out with
    | done =>
      refine ⟨htables t', by rw [hr]; rfl, ?_⟩
      simp [hookTable?]
    | failed e =>
      refine ⟨htables t', ?_, by simp [hookTable?]⟩
      dsimp only
      rw [hreports e]
      simp [TableReport.crossed, Outcome.fault?, hrn]
    | panicked v =>
      refine ⟨htables t', ?_, by simp [hookTable?]⟩
      dsimp only
      rw [hreports (.panic v)]
      simp [TableReport.crossed, Outcome.fault?, hrn]

/-! ## §3 — the whole barrier -/

/-- **The barrier from any point of the phase.** Say the tables `pre` have run their hooks and
`suf` have not, with reports in the same order and all names distinct. Running the hooks of
`suf` in order leaves `pre` followed by `done`, where the table at position `i` of `done` is
that of `suf` after its hook against `pre`, `done` before it and `suf` from it on; its report has
that hook's fault joined; and the trail gains one hook span per table of `suf` that has a
cross-table hook, in order. -/
theorem foldl_crossStep (suf : List (String × Table)) :
    ∀ (pre : List (String × Table)) (preR sufR : List TableReport) (p : Pass),
      p.tables = pre ++ suf → p.reports = preR ++ sufR →
      preR.map (·.name) = pre.map (·.1) → sufR.map (·.name) = suf.map (·.1) →
      ((pre ++ suf).map (·.1)).Nodup →
      let q := (suf.map (·.1)).foldl crossStep p
      ∃ done doneR, q.tables = pre ++ done ∧ q.reports = preR ++ doneR ∧
        (∀ i : Nat, done[i]? = suf[i]?.map fun (e : String × Table) =>
          (e.1, e.2.crossed ⟨.loading, pre ++ done.take i ++ suf.drop i⟩)) ∧
        (∀ i : Nat, doneR[i]? = (suf.zip sufR)[i]?.map
          fun (e : (String × Table) × TableReport) =>
            e.2.crossed (e.1.2.afterAll ⟨.loading, pre ++ done.take i ++ suf.drop i⟩)) ∧
        q.spans.filterMap hookTable? =
          p.spans.filterMap hookTable? ++ (suf.filter (·.2.kind.hasCrossHook)).map (·.1) := by
  induction suf with
  | nil =>
    intro pre preR sufR p ht hr _ hsufR _
    have hR : sufR = [] := List.map_eq_nil_iff.mp hsufR
    subst hR
    refine ⟨[], [], by simpa using ht, by simpa using hr, by simp, by simp, by simp⟩
  | cons e rest ih =>
    intro pre preR sufR p ht hr hpreR hsufR hnd
    obtain ⟨n, t⟩ := e
    -- the report of `n` heads `sufR`, as the names line up
    obtain ⟨r, sufR', rfl, hrn, hsufR'⟩ : ∃ r sufR', sufR = r :: sufR' ∧ r.name = n ∧
        sufR'.map (·.name) = rest.map (·.1) := by
      cases sufR with
      | nil => simp at hsufR
      | cons r sufR' =>
        simp only [List.map_cons, List.cons.injEq] at hsufR
        exact ⟨r, sufR', rfl, hsufR.1, hsufR.2⟩
    -- distinct names: `n` stands once among the tables and once among the reports
    have hnd' : n ∉ pre.map (·.1) ∧ n ∉ rest.map (·.1) := by
      simp only [List.map_append, List.map_cons, List.nodup_append, List.nodup_cons,
        List.mem_cons] at hnd
      exact ⟨fun h => hnd.2.2 n h n (.inl rfl) rfl, hnd.2.1.1⟩
    have hpre : ∀ x ∈ pre, x.1 ≠ n := fun x hx h => hnd'.1 (List.mem_map.mpr ⟨x, hx, h⟩)
    have hsuf : ∀ x ∈ rest, x.1 ≠ n := fun x hx h => hnd'.2 (List.mem_map.mpr ⟨x, hx, h⟩)
    have hpreR' : ∀ x ∈ preR, x.name ≠ n := fun x hx h =>
      hnd'.1 (hpreR ▸ List.mem_map.mpr ⟨x, hx, h⟩)
    have hsufR'' : ∀ x ∈ sufR', x.name ≠ n := fun x hx h =>
      hnd'.2 (hsufR' ▸ List.mem_map.mpr ⟨x, hx, h⟩)
    obtain ⟨ht1, hr1, hs1⟩ := crossStep_eq ht hr hrn hpre hsuf hpreR' hsufR''
    set v : View := ⟨.loading, p.tables⟩ with hv
    set t1 := t.crossed v
    set r1 := r.crossed (t.afterAll v)
    obtain ⟨done, doneR, hq, hqR, hdone, hdoneR, hspans⟩ :=
      ih (pre ++ [(n, t1)]) (preR ++ [r1]) sufR' (crossStep p n)
        (by rw [ht1]; simp) (by rw [hr1]; simp) (by simp [hpreR, r1, hrn]) hsufR'
        (by simpa using hnd)
    have hview : v = ⟨.loading, pre ++ (n, t) :: rest⟩ := by rw [hv, ht]
    refine ⟨(n, t1) :: done, r1 :: doneR, ?_, ?_, ?_, ?_, ?_⟩
    · simpa using hq
    · simpa using hqR
    · intro i
      cases i with
      | zero => simp [t1, hview]
      | succ i => simpa using hdone i
    · intro i
      cases i with
      | zero => simp [r1, hview]
      | succ i => simpa using hdoneR i
    · rw [List.map_cons, List.foldl_cons, hspans, hs1]
      by_cases hk : t.kind.hasCrossHook <;> simp [hk]

/-- **The barrier as a fixed point.** Over a pass whose reports follow its tables and whose
names are distinct, the cross-table phase leaves at each position the table after its hook
against `hookView`: the tables before it as their hooks left them and the rest as the load
phase left them. Its report carries that hook's fault, and the trail records the hook of each
table that has one, once, in order. -/
theorem crossAll_spec {p : Pass} (hnames : p.reports.map (·.name) = p.tables.map (·.1))
    (hnd : (p.tables.map (·.1)).Nodup) :
    let F := (crossAll p).tables
    (∀ i : Nat, F[i]? = p.tables[i]?.map fun (e : String × Table) =>
      (e.1, e.2.crossed (hookView p.tables F i))) ∧
    (∀ i : Nat, (crossAll p).reports[i]? =
      (p.tables.zip p.reports)[i]?.map fun (e : (String × Table) × TableReport) =>
        e.2.crossed (e.1.2.afterAll (hookView p.tables F i))) ∧
    (crossAll p).spans.filterMap hookTable? =
      p.spans.filterMap hookTable? ++ (p.tables.filter (·.2.kind.hasCrossHook)).map (·.1) := by
  obtain ⟨done, doneR, hq, hqR, hdone, hdoneR, hspans⟩ :=
    foldl_crossStep p.tables [] [] p.reports p (by simp) (by simp) rfl hnames (by simpa using hnd)
  simp only [List.nil_append] at hq hqR hdone hdoneR
  have hF : (crossAll p).tables = done := hq
  refine ⟨?_, ?_, hspans⟩
  · intro i
    rw [hF, hdone i]
    rfl
  · intro i
    rw [show (crossAll p).reports = doneR from hqR, hdoneR i, hF]
    rfl

/-- A hook invocation keeps every table's and report's name in place. -/
theorem crossStep_names (p : Pass) (n : String) :
    (crossStep p n).tables.map (·.1) = p.tables.map (·.1) ∧
      (crossStep p n).reports.map (·.name) = p.reports.map (·.name) := by
  have hkeep : ∀ t' : Table,
      (p.tables.map (fun e => if e.1 = n then (n, t') else e)).map (·.1) = p.tables.map (·.1) :=
    fun t' => by
      rw [List.map_map]
      exact List.map_congr_left (fun e _ => by by_cases h : e.1 = n <;> simp [h])
  unfold crossStep
  split
  · exact ⟨rfl, rfl⟩
  · next t' out _ =>
    cases out <;> simp [hkeep, List.map_map, Function.comp_def, apply_ite TableReport.name]

/-- **The cross-table phase keeps the names, in order**, of the tables and of the reports. -/
theorem crossAll_names (p : Pass) :
    (crossAll p).tables.map (·.1) = p.tables.map (·.1) ∧
      (crossAll p).reports.map (·.name) = p.reports.map (·.name) := by
  -- every step keeps the names, whichever names the fold runs over
  suffices key : ∀ (names : List String) (q : Pass),
      (names.foldl crossStep q).tables.map (·.1) = q.tables.map (·.1) ∧
        (names.foldl crossStep q).reports.map (·.name) = q.reports.map (·.name) from key _ p
  intro names
  induction names with
  | nil => exact fun q => ⟨rfl, rfl⟩
  | cons n rest ih =>
    intro q
    obtain ⟨ht, hr⟩ := crossStep_names q n
    obtain ⟨ht', hr'⟩ := ih (crossStep q n)
    exact ⟨ht'.trans ht, hr'.trans hr⟩

end ConfigTables.Hub
