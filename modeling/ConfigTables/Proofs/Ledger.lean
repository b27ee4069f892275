import Mathlib
import ConfigTables.Journal
/-!
# The journal is a finite map

The journal's reference model is a finite map from session id to the session's summary and its
table rows (`Ledger`). Recording a session replaces its entry, pruning keeps the newest entries,
and the listings read the map in a fixed order: sessions newest first, sessions that started at
the same instant by id (`Newer`); a session's tables by name.

* §1 `ORDER BY`: every clause sorts into a total preorder (`orderLe_total`, `orderLe_trans`);
  the listing's clause, `started_at DESC, id`, puts sessions with distinct ids in listing order
  (`pairwise_newer_orderBy`), and the tables' clause, `name`, sorts by name.
* §2 `Ledger.Step`: what the reference model answers to each call, and the model after it. A
  listing is any list in listing order holding exactly the map's summaries, which makes it
  unique (`Ledger.Lists.unique`), so the model answers every call in exactly one way
  (`Ledger.Step.determined`).
* §3 `Db.contents`: the finite map the database's two tables stand for, each session with the
  rows of `session_tables` under its id; the keys every database keeps make it one summary per
  id (`Db.eq_of_mem_of_id`).
* §4 One lemma per statement and query: a cascading delete filters the contents
  (`Db.lookup_deleteWhere`); a transaction that fails leaves its base untouched
  (`Tx.run_error_base`), so a record either commits the session in place of its id
  (`Db.record_commits`) or rolls back (`Db.record_rolls_back`); the queries list the contents
  (`Db.select_lists`, `Db.select_sessionQuery`, `Db.selectTables_tablesQuery`); and pruning, whose
  subquery writes its own `ORDER BY`, keeps the head of the listing (`Db.lookup_prune`,
  `Db.prune_removed`).
-/

namespace ConfigTables.Journal

/-! ## §1 — `ORDER BY` -/

section Order

variable {col α : Type} (get : col → α → Value)

theorem Value.lt_irrefl (x : Value) : x.lt x = false := by
  cases x <;> simp [Value.lt]

theorem Value.lt_trans {x y z : Value} (hxy : x.lt y) (hyz : y.lt z) : x.lt z := by
  cases x <;> cases y <;> cases z <;>
    simp only [Value.lt, decide_eq_true_eq, Bool.false_eq_true] at hxy hyz ⊢
  all_goals exact lt_of_lt_of_le hxy hyz.le

theorem Value.lt_asymm {x y : Value} (hxy : x.lt y) : y.lt x = false := by
  cases x <;> cases y <;>
    simp only [Value.lt, decide_eq_true_eq, decide_eq_false_iff_not, Bool.false_eq_true] at hxy ⊢
  all_goals exact not_lt.mpr hxy.le

theorem Value.lt_or_lt {x y : Value} (h : x ≠ y) : x.lt y ∨ y.lt x := by
  cases x <;> cases y <;> simp only [Value.lt, decide_eq_true_eq, ne_eq, Value.int.injEq,
    Value.text.injEq, reduceCtorEq, not_false_eq_true, or_true, true_or] at h ⊢
  all_goals exact lt_or_gt_of_ne h
/-- **Every `ORDER BY` clause compares any two rows**, one way or the other. -/
theorem orderLe_total (ks : List (Key col)) (a b : α) :
    (orderLe get ks a b || orderLe get ks b a) = true := by
  induction ks with
  | nil => rfl
  | cons k ks ih =>
    simp only [orderLe]
    by_cases h : get k.col a = get k.col b
    · rw [if_pos h, if_pos h.symm]
      exact ih
    · rw [if_neg h, if_neg (Ne.symm h)]
      cases hd : k.desc <;> rcases Value.lt_or_lt h with h' | h' <;> simp [h']

/-- **Every `ORDER BY` clause compares transitively.** -/
theorem orderLe_trans (ks : List (Key col)) {a b c : α} (hab : orderLe get ks a b)
    (hbc : orderLe get ks b c) : orderLe get ks a c := by
  induction ks with
  | nil => rfl
  | cons k ks ih =>
    simp only [orderLe] at hab hbc ⊢
    by_cases hxy : get k.col a = get k.col b <;> by_cases hyz : get k.col b = get k.col c
    · rw [if_pos hxy] at hab
      rw [if_pos hyz] at hbc
      rw [if_pos (hxy.trans hyz)]
      exact ih hab hbc
    · rw [if_pos hxy] at hab
      rw [if_neg hyz] at hbc
      rw [if_neg (hxy ▸ hyz), hxy]
      exact hbc
    · rw [if_neg hxy] at hab
      rw [if_pos hyz] at hbc
      rw [if_neg (hyz ▸ hxy), ← hyz]
      exact hab
    · rw [if_neg hxy] at hab
      rw [if_neg hyz] at hbc
      -- the key's values run strictly one way from `a` through `b` to `c`, so `a`'s and `c`'s
      -- differ
      cases hd : k.desc <;> simp only [hd, Bool.false_eq_true, if_false, if_true] at hab hbc ⊢
      · have hac := Value.lt_trans hab hbc
        have hne : get k.col a ≠ get k.col c := fun h => by
          rw [h, Value.lt_irrefl] at hac
          cases hac
        rw [if_neg hne]
        exact hac
      · have hca := Value.lt_trans hbc hab
        have hne : get k.col a ≠ get k.col c := fun h => by
          rw [h, Value.lt_irrefl] at hca
          cases hca
        rw [if_neg hne]
        exact hca

/-- **The rows of a query come sorted by its `ORDER BY` clause.** -/
theorem pairwise_orderBy (ks : List (Key col)) (rows : List α) :
    (orderBy get ks rows).Pairwise (fun a b => orderLe get ks a b = true) :=
  @List.pairwise_mergeSort α (orderLe get ks) (fun _ _ _ hab hbc => orderLe_trans get ks hab hbc)
    (orderLe_total get ks) rows

end Order

/-- `a` is listed before `b`: it started later, or at the same instant under a smaller id. -/
def Newer (a b : Session) : Prop :=
  b.startedAt < a.startedAt ∨ (a.startedAt = b.startedAt ∧ a.id < b.id)

theorem Newer.asymm {a b : Session} (h : Newer a b) : ¬ Newer b a := by
  rintro (h' | ⟨he', h'⟩) <;> rcases h with h | ⟨he, h⟩
  · omega
  · omega
  · omega
  · exact lt_asymm h h'

/-- The listing's clause, `ORDER BY started_at DESC, id`. -/
theorem orderLe_listQuery (n : Option Nat) (a b : Session) :
    orderLe Session.get (listQuery n).orderBy a b = true ↔
      b.startedAt < a.startedAt ∨ (a.startedAt = b.startedAt ∧ a.id ≤ b.id) := by
  simp only [listQuery, orderLe, Session.get, Value.int.injEq, Value.text.injEq, Value.lt,
    Bool.false_eq_true, if_true, if_false]
  by_cases hs : a.startedAt = b.startedAt
  · by_cases hi : a.id = b.id
    · simp [hs, hi]
    · simp [hs, hi, le_iff_lt_or_eq]
  · simp only [hs, if_false, decide_eq_true_eq, false_and, or_false]

/-- **Sorting sessions with distinct ids by the listing's clause lists them in listing
order.** -/
theorem pairwise_newer_orderBy {l : List Session} (hl : (l.map (·.id)).Nodup) (n : Option Nat) :
    (orderBy Session.get (listQuery n).orderBy l).Pairwise Newer := by
  have hids : ((orderBy Session.get (listQuery n).orderBy l).map (·.id)).Nodup :=
    (((List.mergeSort_perm l _).map _).nodup_iff).mpr hl
  rw [List.nodup_iff_pairwise_ne, List.pairwise_map] at hids
  refine ((pairwise_orderBy Session.get _ l).and hids).imp ?_
  rintro a b ⟨hab, hne⟩
  rcases (orderLe_listQuery n a b).mp hab with h | ⟨h, h'⟩
  · exact .inl h
  · exact .inr ⟨h, lt_of_le_of_ne h' hne⟩

/-- Two lists in listing order holding the same sessions are one list. -/
theorem eq_of_perm_of_newer {l₁ l₂ : List Session} (hp : l₁.Perm l₂) (h₁ : l₁.Pairwise Newer)
    (h₂ : l₂.Pairwise Newer) : l₁ = l₂ :=
  hp.eq_of_pairwise (fun _ _ _ _ hab hba => (hab.asymm hba).elim) h₁ h₂

/-- The tables' clause, `ORDER BY name`. -/
theorem orderLe_tablesQuery (id : String) (a b : TableRow) :
    orderLe TableRow.get (tablesQuery id).orderBy a b = decide (a.line.name ≤ b.line.name) := by
  simp only [tablesQuery, orderLe, TableRow.get, Value.text.injEq, Value.lt, Bool.false_eq_true,
    if_false]
  by_cases h : a.line.name = b.line.name
  · simp [h]
  · simp [h, le_iff_lt_or_eq]

/-- Sorting tables with distinct names orders them strictly by name. -/
theorem pairwise_name_mergeSort {l : List Line} (hl : (l.map (·.name)).Nodup) :
    (l.mergeSort fun a b => decide (a.name ≤ b.name)).Pairwise (·.name < ·.name) := by
  have hsorted : (l.mergeSort fun a b => decide (a.name ≤ b.name)).Pairwise
      (fun a b => decide (a.name ≤ b.name) = true) :=
    List.pairwise_mergeSort
      (fun a b c hab hbc => by simp_all only [decide_eq_true_eq]; exact hab.trans hbc)
      (fun a b => by simpa using le_total a.name b.name) l
  have hnames : ((l.mergeSort fun a b => decide (a.name ≤ b.name)).map (·.name)).Nodup :=
    (((List.mergeSort_perm l _).map _).nodup_iff).mpr hl
  rw [List.nodup_iff_pairwise_ne, List.pairwise_map] at hnames
  exact (hsorted.and hnames).imp fun ⟨hab, hne⟩ => lt_of_le_of_ne (by simpa using hab) hne

/-! ## §2 — the reference model -/

/-- The reference model of a journal: a finite map from session id to the session's summary
and its table rows. -/
abbrev Ledger := Finmap fun _ : String => Session × List Line

namespace Ledger

/-- `xs` lists every summary of the ledger once, in listing order. -/
def Lists (M : Ledger) (xs : List Session) : Prop :=
  xs.Pairwise Newer ∧ ∀ s, s ∈ xs ↔ ∃ ls, M.lookup s.id = some (s, ls)

/-- The rows recorded for a session; none for an id the ledger lacks. -/
def rows (M : Ledger) (id : String) : List Line := ((M.lookup id).map (·.2)).getD []

/-- A listing cut to a positive limit, whole otherwise. -/
def limited (limit : Int) (xs : List Session) : List Session :=
  if limit > 0 then xs.take limit.toNat else xs

/-- **A ledger has one listing.** -/
theorem Lists.unique {M : Ledger} {xs ys : List Session} (hx : M.Lists xs) (hy : M.Lists ys) :
    xs = ys := by
  have hnx : xs.Nodup := hx.1.imp fun h e => by subst e; exact h.asymm h
  have hny : ys.Nodup := hy.1.imp fun h e => by subst e; exact h.asymm h
  refine eq_of_perm_of_newer ((List.perm_ext_iff_of_nodup hnx hny).mpr fun s => ?_) hx.1 hy.1
  rw [hx.2, hy.2]

end Ledger

/-- A call on an open journal. -/
inductive Call where
  | record (e : Entry)
  | prune (keep : Int)
  | recent (limit : Int)
  | session (id : String)
  | lines (id : String)
  | reopen

/-- What a call answers. -/
inductive Reply where
  /-- Whether a record went through. -/
  | recorded (ok : Bool)
  /-- How many sessions pruning removed. -/
  | removed (n : Nat)
  | sessions (xs : List Session)
  | session (r : Except String Session)
  | lines (xs : List Line)
  | reopened
  /-- A call that failed on its own account. -/
  | failed (msg : String)

namespace Ledger

/-- **The reference model's answers.** Recording a session with an id and tables under distinct
names puts it in the map, replacing any entry of that id; any other record is refused and
changes nothing. Pruning keeps the entries of the first `keep` sessions of the listing (none for
a negative count) and answers how many it removed. The listing is cut to a positive limit. A
session is found by its id, or reported missing. A session's tables are its rows strictly by
name, none for an id the map lacks. Reopening changes nothing. -/
inductive Step : Ledger → Call → Reply → Ledger → Prop
  | record {M : Ledger} {e : Entry} (hid : e.session.id ≠ "")
      (hnames : (e.lines.map (·.name)).Nodup) :
      Step M (.record e) (.recorded true) (M.insert e.session.id (e.session, e.lines))
  | refuse {M : Ledger} {e : Entry} (h : e.session.id = "" ∨ ¬ (e.lines.map (·.name)).Nodup) :
      Step M (.record e) (.recorded false) M
  | prune {M M' : Ledger} {keep : Int} {xs : List Session} (hxs : M.Lists xs)
      (hM' : ∀ id, M'.lookup id =
        if id ∈ (xs.take keep.toNat).map (·.id) then M.lookup id else none) :
      Step M (.prune keep) (.removed (xs.drop keep.toNat).length) M'
  | recent {M : Ledger} {limit : Int} {xs : List Session} (hxs : M.Lists xs) :
      Step M (.recent limit) (.sessions (limited limit xs)) M
  | found {M : Ledger} {id : String} {s : Session} {ls : List Line}
      (h : M.lookup id = some (s, ls)) :
      Step M (.session id) (.session (.ok s)) M
  | missing {M : Ledger} {id : String} (h : M.lookup id = none) :
      Step M (.session id) (.session (.error (Sentinel.sessionNotFound.text ++ ": " ++ id))) M
  | lines {M : Ledger} {id : String} {xs : List Line} (hs : xs.Pairwise (·.name < ·.name))
      (hp : xs.Perm (M.rows id)) :
      Step M (.lines id) (.lines xs) M
  | reopen {M : Ledger} : Step M .reopen .reopened M

/-- The replies the reference model gives to a sequence of calls. -/
inductive Follows : Ledger → List Call → List Reply → Prop
  | nil {M : Ledger} : Follows M [] []
  | cons {M M' : Ledger} {c : Call} {r : Reply} {cs : List Call} {rs : List Reply} :
      Step M c r M' → Follows M' cs rs → Follows M (c :: cs) (r :: rs)

/-- Two lists strictly by name holding the same rows are one list. -/
theorem eq_of_perm_of_name {l₁ l₂ : List Line} (hp : l₁.Perm l₂)
    (h₁ : l₁.Pairwise (·.name < ·.name)) (h₂ : l₂.Pairwise (·.name < ·.name)) : l₁ = l₂ :=
  hp.eq_of_pairwise (fun _ _ _ _ hab hba => (lt_asymm hab hba).elim) h₁ h₂

/-- **The reference model answers every call in one way** and leaves one model behind. -/
theorem Step.determined {M M₁ M₂ : Ledger} {c : Call} {r₁ r₂ : Reply}
    (h₁ : Step M c r₁ M₁) (h₂ : Step M c r₂ M₂) : r₁ = r₂ ∧ M₁ = M₂ := by
  cases h₁ with
  | record hid hnames =>
    cases h₂ with
    | record => exact ⟨rfl, rfl⟩
    | refuse h => exact (h.elim hid fun h' => h' hnames).elim
  | refuse h =>
    cases h₂ with
    | record hid hnames => exact (h.elim hid fun h' => h' hnames).elim
    | refuse => exact ⟨rfl, rfl⟩
  | prune hxs hM' =>
    cases h₂ with
    | prune hys hM'' =>
      obtain rfl := hxs.unique hys
      exact ⟨rfl, Finmap.ext_lookup fun id => by rw [hM', hM'']⟩
  | recent hxs =>
    cases h₂ with
    | recent hys => rw [hxs.unique hys]; exact ⟨rfl, rfl⟩
  | found h =>
    cases h₂ with
    | found h' => rw [h] at h'; cases h'; exact ⟨rfl, rfl⟩
    | missing h' => rw [h] at h'; cases h'
  | missing h =>
    cases h₂ with
    | found h' => rw [h] at h'; cases h'
    | missing => exact ⟨rfl, rfl⟩
  | lines hs hp =>
    cases h₂ with
    | lines hs' hp' => exact ⟨by rw [eq_of_perm_of_name (hp.trans hp'.symm) hs hs'], rfl⟩
  | reopen => cases h₂; exact ⟨rfl, rfl⟩

/-- The reference model answers a sequence of calls in one way. -/
theorem Follows.determined {M : Ledger} {cs : List Call} {rs₁ rs₂ : List Reply}
    (h₁ : Follows M cs rs₁) (h₂ : Follows M cs rs₂) : rs₁ = rs₂ := by
  induction h₁ generalizing rs₂ with
  | nil => cases h₂; rfl
  | cons hstep _ ih =>
    cases h₂ with
    | cons hstep' hrest =>
      obtain ⟨rfl, rfl⟩ := hstep.determined hstep'
      rw [ih hrest]

/-- Keeping the entries of the first `n` sessions of a listing leaves those `n` as the
listing. -/
theorem Lists.keep {M M' : Ledger} {xs : List Session} (hxs : M.Lists xs) (n : Nat)
    (hM' : ∀ id, M'.lookup id = if id ∈ (xs.take n).map (·.id) then M.lookup id else none) :
    M'.Lists (xs.take n) := by
  refine ⟨hxs.1.sublist (List.take_sublist n xs), fun s => ?_⟩
  rw [hM']
  constructor
  · intro hs
    obtain ⟨ls, hls⟩ := (hxs.2 s).mp ((List.take_sublist _ _).subset hs)
    exact ⟨ls, by rw [if_pos (List.mem_map_of_mem hs)]; exact hls⟩
  · rintro ⟨ls, hls⟩
    split at hls
    · next hmem =>
      -- the kept id is some listed session's, and the map holds one summary per id
      obtain ⟨t, ht, hid⟩ := List.mem_map.mp hmem
      obtain ⟨lt, hlt⟩ := (hxs.2 t).mp ((List.take_sublist _ _).subset ht)
      rw [hid, hls] at hlt
      cases hlt
      exact ht
    · cases hls

/-- **Pruning keeps the head of the listing**: after keeping `keep` sessions, the listing is
the first `keep` sessions of the listing before, and nothing at all for a count that is not
positive. -/
theorem Step.prune_lists {M M' : Ledger} {keep : Int} {r : Reply} (h : Step M (.prune keep) r M')
    {xs : List Session} (hxs : M.Lists xs) :
    M'.Lists (if keep > 0 then xs.take keep.toNat else []) := by
  cases h with
  | prune hys hM' =>
    obtain rfl := hxs.unique hys
    have hkept := hxs.keep keep.toNat hM'
    split
    · exact hkept
    · next hk =>
      have hzero : keep.toNat = 0 := by omega
      rwa [hzero, List.take_zero] at hkept

end Ledger

/-! ## §3 — what the database holds -/

namespace Db

/-- The table rows of a session, in the order they were inserted. -/
def rowsOf (db : Db) (id : String) : List Line :=
  (db.tables.filter (·.sessionId = id)).map (·.line)

/-- What a database holds: each session's summary and the table rows under its id. -/
def contents (db : Db) : Ledger :=
  (db.sessions.map fun s =>
    (⟨s.id, (s, db.rowsOf s.id)⟩ : Σ _ : String, Session × List Line)).toFinmap

theorem dlookup_map_id (l : List Session) (f : Session → Session × List Line) (id : String) :
    (l.map fun s => (⟨s.id, f s⟩ : Σ _ : String, Session × List Line)).dlookup id =
      (l.find? (·.id = id)).map f := by
  induction l with
  | nil => rfl
  | cons s rest ih =>
    by_cases h : s.id = id
    · subst h
      simp [List.dlookup_cons_eq]
    · rw [List.map_cons, List.dlookup_cons_ne _ _ (Ne.symm h), ih,
        List.find?_cons_of_neg (by simpa using h)]

/-- **The contents of a database are its session rows by id**, each with the table rows under
its id. -/
theorem lookup_contents (db : Db) (id : String) :
    db.contents.lookup id = (db.sessions.find? (·.id = id)).map fun s => (s, db.rowsOf id) := by
  rw [contents, Finmap.dlookup_list_toFinmap, dlookup_map_id]
  cases hf : db.sessions.find? (·.id = id) with
  | none => rfl
  | some s =>
    have hid : s.id = id := by simpa using List.find?_some hf
    simp [hid]

/-- Two session rows of a database with one id are one row. -/
theorem eq_of_mem_of_id (db : Db) {s t : Session} (hs : s ∈ db.sessions) (ht : t ∈ db.sessions)
    (h : s.id = t.id) : s = t :=
  List.inj_on_of_nodup_map db.keys.ids hs ht h

/-- Every session row is the one found under its id. -/
theorem find?_of_mem (db : Db) {s : Session} (hs : s ∈ db.sessions) :
    db.sessions.find? (·.id = s.id) = some s := by
  obtain ⟨t, ht⟩ : ∃ t, db.sessions.find? (·.id = s.id) = some t :=
    Option.isSome_iff_exists.mp (List.find?_isSome.mpr ⟨s, hs, by simp⟩)
  rw [ht, db.eq_of_mem_of_id (List.mem_of_find?_eq_some ht) hs (by simpa using List.find?_some ht)]

/-- The contents hold a summary under an id exactly when it is the session row with that id,
with the table rows under it. -/
theorem lookup_contents_eq_some (db : Db) {id : String} {v : Session × List Line} :
    db.contents.lookup id = some v ↔ v.1 ∈ db.sessions ∧ v.1.id = id ∧ v.2 = db.rowsOf id := by
  rw [lookup_contents]
  constructor
  · intro h
    obtain ⟨s, hf, rfl⟩ := Option.map_eq_some_iff.mp h
    exact ⟨List.mem_of_find?_eq_some hf, by simpa using List.find?_some hf, rfl⟩
  · rintro ⟨hs, rfl, hrows⟩
    rw [db.find?_of_mem hs, Option.map_some, ← hrows]

/-- A session's tables have distinct names: rows stand under distinct session-name pairs. -/
theorem nodup_rowsOf_names (db : Db) (id : String) : ((db.rowsOf id).map (·.name)).Nodup := by
  have hpairs : ((db.tables.filter (·.sessionId = id)).map
      fun r => (r.sessionId, r.line.name)).Nodup :=
    db.keys.pairs.sublist (List.filter_sublist.map _)
  -- every row under the id pairs the id with its name
  have hsame : (db.tables.filter (·.sessionId = id)).map (fun r => (r.sessionId, r.line.name)) =
      ((db.rowsOf id).map (·.name)).map (Prod.mk id) := by
    rw [rowsOf, List.map_map, List.map_map]
    refine List.map_congr_left fun r hr => ?_
    have hid : r.sessionId = id := by simpa using (List.mem_filter.mp hr).2
    simp [hid]
  rw [hsame] at hpairs
  exact hpairs.of_map _

/-- **No table row outlives its session**: no rows stand under an id no session row has. -/
theorem rowsOf_eq_nil (db : Db) {id : String} (h : id ∉ db.sessions.map (·.id)) :
    db.rowsOf id = [] := by
  rw [rowsOf, List.map_eq_nil_iff, List.filter_eq_nil_iff]
  intro r hr hid
  simp only [decide_eq_true_eq] at hid
  exact h (hid ▸ db.keys.linked r hr)

/-- The ledger's rows of an id are the table rows under it. -/
theorem rows_contents (db : Db) (id : String) : Ledger.rows db.contents id = db.rowsOf id := by
  rw [Ledger.rows, lookup_contents]
  cases hf : db.sessions.find? (·.id = id) with
  | some s => rfl
  | none =>
    -- no session row has the id, so no table row stands under it
    refine (db.rowsOf_eq_nil fun hmem => ?_).symm
    obtain ⟨s, hs, rfl⟩ := List.mem_map.mp hmem
    rw [db.find?_of_mem hs] at hf
    cases hf

/-! ## §4 — one lemma per statement and query -/

/-- A session row outside a cascading delete leaves its id among the ids kept. -/
theorem contains_gone_eq_false (db : Db) {p : Session → Bool} {s : Session}
    (hs : s ∈ db.sessions) (hp : p s = false) :
    ((db.sessions.filter p).map (·.id)).contains s.id = false := by
  rw [Bool.eq_false_iff]
  intro hc
  obtain ⟨t, ht, hid⟩ := List.mem_map.mp (List.contains_iff_mem.mp hc)
  obtain ⟨ht, hpt⟩ := List.mem_filter.mp ht
  rw [db.eq_of_mem_of_id ht hs hid, hp] at hpt
  cases hpt

theorem rowsOf_deleteWhere (db : Db) (p : Session → Bool) (id : String) :
    (db.deleteWhere p).1.rowsOf id =
      if ((db.sessions.filter p).map (·.id)).contains id then [] else db.rowsOf id := by
  simp only [rowsOf, deleteWhere, List.filter_filter]
  split
  · next hgone =>
    rw [List.map_eq_nil_iff, List.filter_eq_nil_iff]
    intro r _ hr
    simp only [Bool.and_eq_true, decide_eq_true_eq, Bool.not_eq_true'] at hr
    rw [hr.1, hgone] at hr
    cases hr.2
  · next hgone =>
    have hg := Bool.eq_false_iff.mpr hgone
    congr 1
    refine List.filter_congr fun r _ => ?_
    by_cases hr : r.sessionId = id
    · simp only [hr, hg, decide_true, Bool.not_false, Bool.and_self]
    · simp [hr]

/-- **A cascading delete keeps exactly the sessions it does not pick**, each with all its
tables. -/
theorem lookup_deleteWhere (db : Db) (p : Session → Bool) (id : String) :
    (db.deleteWhere p).1.contents.lookup id = (db.contents.lookup id).filter fun v => !p v.1 := by
  refine Option.ext fun v => ?_
  rw [lookup_contents_eq_some, Option.filter_eq_some_iff, lookup_contents_eq_some,
    rowsOf_deleteWhere]
  simp only [deleteWhere, List.mem_filter, Bool.not_eq_true']
  constructor
  · rintro ⟨⟨hs, hp⟩, rfl, hrows⟩
    simp only [db.contains_gone_eq_false hs hp, Bool.false_eq_true, if_false] at hrows
    exact ⟨⟨hs, rfl, hrows⟩, by simp [hp]⟩
  · rintro ⟨⟨hs, rfl, hrows⟩, hp⟩
    have hp' : p v.1 = false := by simpa using hp
    simp only [db.contains_gone_eq_false hs hp', Bool.false_eq_true, if_false]
    exact ⟨⟨hs, hp'⟩, trivial, hrows⟩

/-- Clearing an id leaves no table rows under it. -/
theorem rowsOf_clear (db : Db) (id : String) :
    (db.deleteWhere (·.id = id)).1.rowsOf id = [] := by
  rw [rowsOf_deleteWhere]
  split
  · rfl
  · next hgone =>
    -- no session row had the id, so none of its table rows was there either
    refine db.rowsOf_eq_nil fun hmem => ?_
    obtain ⟨s, hs, rfl⟩ := List.mem_map.mp hmem
    exact hgone (List.contains_iff_mem.mpr
      (List.mem_map_of_mem (List.mem_filter.mpr ⟨hs, by simp⟩)))

/-- A table row goes in exactly when its name is new under its session's id. -/
theorem mem_pairs_iff (db : Db) (id name : String) :
    (id, name) ∈ db.tables.map (fun t => (t.sessionId, t.line.name)) ↔
      name ∈ (db.rowsOf id).map (·.name) := by
  simp only [rowsOf, List.map_map, List.mem_map, List.mem_filter, Function.comp_apply,
    Prod.mk.injEq, decide_eq_true_eq]
  constructor
  · rintro ⟨r, hr, hid, hname⟩
    exact ⟨r, ⟨hr, hid⟩, hname⟩
  · rintro ⟨r, ⟨hr, hid⟩, hname⟩
    exact ⟨r, hr, hid, hname⟩

theorem exec_insertTable_of_mem (db : Db) {id : String} {l : Line}
    (h : l.name ∈ (db.rowsOf id).map (·.name)) :
    db.exec (.insertTable ⟨id, l⟩) = .error uniqueTableFault := by
  simp only [exec]
  rw [dif_pos ((db.mem_pairs_iff id l.name).mpr h)]

theorem exec_insertTable (db : Db) {id : String} {l : Line} (hid : id ∈ db.sessions.map (·.id))
    (h : l.name ∉ (db.rowsOf id).map (·.name)) :
    ∃ d, db.exec (.insertTable ⟨id, l⟩) = .ok (d, 1) ∧ d.sessions = db.sessions ∧
      d.tables = db.tables ++ [⟨id, l⟩] := by
  simp only [exec]
  rw [dif_neg (mt (db.mem_pairs_iff id l.name).mp h), dif_pos hid]
  exact ⟨_, rfl, rfl, rfl⟩

/-- Table rows appended under one id add to that id's rows and to no other's. -/
theorem rowsOf_append_rows (db : Db) {d : Db} {id : String} {ls : List Line}
    (hd : d.tables = db.tables ++ ls.map (⟨id, ·⟩)) (x : String) :
    d.rowsOf x = db.rowsOf x ++ if id = x then ls else [] := by
  rw [rowsOf, hd, List.filter_append, List.map_append, ← rowsOf]
  by_cases hx : id = x
  · subst hx
    simp [List.filter_map, Function.comp_def]
  · simp [List.filter_map, Function.comp_def, hx]

/-- Clearing an id leaves the table rows of every other id. -/
theorem rowsOf_clear_of_ne (db : Db) {id x : String} (hx : x ≠ id) :
    (db.deleteWhere (·.id = id)).1.rowsOf x = db.rowsOf x := by
  rw [rowsOf_deleteWhere, if_neg]
  intro hc
  obtain ⟨s, hs, rfl⟩ := List.mem_map.mp (List.contains_iff_mem.mp hc)
  exact hx (by simpa using (List.mem_filter.mp hs).2)

theorem rowsOf_congr {d d' : Db} (h : d.tables = d'.tables) (x : String) :
    d.rowsOf x = d'.rowsOf x := by
  simp [rowsOf, h]

end Db

/-- **A transaction never touches the database it began on**: wherever a statement fails,
rolling back gives that database back. -/
theorem Tx.run_error_base {tx : Tx} {ss : List (String × Stmt)} {m : String} {t : Tx}
    (h : tx.run ss = .error (m, t)) : t.base = tx.base := by
  induction ss generalizing tx with
  | nil => cases h
  | cons st rest ih =>
    obtain ⟨what, s⟩ := st
    unfold Tx.run at h
    split at h
    · -- the rest runs on the changed working copy, over the same base
      have hrest := ih h
      exact hrest
    · cases h
      rfl

section Inserts

variable {id : String}

/-- The statements that insert a session's tables, in order. -/
abbrev tableStmts (id : String) (ls : List Line) : List (String × Stmt) :=
  ls.map fun l => ("inserting table " ++ l.name, .insertTable ⟨id, l⟩)

/-- Inserting tables whose names are new and distinct under their session goes through,
appending their rows. -/
theorem Tx.run_tableStmts_ok (tx : Tx) (hid : id ∈ tx.work.sessions.map (·.id)) {ls : List Line}
    (hnames : ((tx.work.rowsOf id ++ ls).map (·.name)).Nodup) :
    ∃ t, tx.run (tableStmts id ls) = .ok t ∧ t.base = tx.base ∧
      t.work.sessions = tx.work.sessions ∧ t.work.tables = tx.work.tables ++ ls.map (⟨id, ·⟩) := by
  induction ls generalizing tx with
  | nil => exact ⟨tx, rfl, rfl, rfl, by simp⟩
  | cons l rest ih =>
    -- the first name is new under the session, so its row goes in
    have hnew : l.name ∉ (tx.work.rowsOf id).map (·.name) := by
      rw [List.map_append, List.nodup_append] at hnames
      exact fun hmem => hnames.2.2 _ hmem _ List.mem_cons_self rfl
    obtain ⟨d, hd, hds, hdt⟩ := tx.work.exec_insertTable hid hnew
    have hdt' : d.tables = tx.work.tables ++ [l].map (⟨id, ·⟩) := hdt
    obtain ⟨t, ht, htb, hts, htt⟩ := ih { tx with work := d } (by rw [hds]; exact hid)
      (by rw [tx.work.rowsOf_append_rows hdt']; simpa using hnames)
    refine ⟨t, ?_, htb, hts.trans hds, ?_⟩
    · simp only [tableStmts, List.map_cons, Tx.run, hd]
      exact ht
    · rw [htt]
      simp [hdt]

/-- Inserting tables one of which repeats a name under their session fails. -/
theorem Tx.run_tableStmts_error (tx : Tx) (hid : id ∈ tx.work.sessions.map (·.id))
    {ls : List Line} (hnames : ¬ ((tx.work.rowsOf id ++ ls).map (·.name)).Nodup) :
    ∃ m t, tx.run (tableStmts id ls) = .error (m, t) := by
  induction ls generalizing tx with
  | nil => exact absurd (by simpa using tx.work.nodup_rowsOf_names id) hnames
  | cons l rest ih =>
    by_cases hnew : l.name ∈ (tx.work.rowsOf id).map (·.name)
    · exact ⟨_, _, by simp only [tableStmts, List.map_cons, Tx.run,
        tx.work.exec_insertTable_of_mem hnew]; rfl⟩
    · obtain ⟨d, hd, hds, hdt⟩ := tx.work.exec_insertTable hid hnew
      have hdt' : d.tables = tx.work.tables ++ [l].map (⟨id, ·⟩) := hdt
      obtain ⟨m, t, ht⟩ := ih { tx with work := d } (by rw [hds]; exact hid)
        (by rw [tx.work.rowsOf_append_rows hdt']; simpa using hnames)
      exact ⟨m, t, by simp only [tableStmts, List.map_cons, Tx.run, hd]; exact ht⟩

end Inserts

namespace Db

/-- A record's first two statements clear the session's id, its table rows going with it, and
insert its new row; its table rows follow. -/
theorem run_recordStmts (db : Db) (e : Entry) :
    ∃ w, db.begin.run (recordStmts e) = (⟨db, w⟩ : Tx).run (tableStmts e.session.id e.lines) ∧
      w.sessions = (db.deleteWhere (·.id = e.session.id)).1.sessions ++ [e.session] ∧
      w.tables = (db.deleteWhere (·.id = e.session.id)).1.tables := by
  have hfree : e.session.id ∉ (db.deleteWhere (·.id = e.session.id)).1.sessions.map (·.id) := by
    simp [deleteWhere]
  refine ⟨⟨_, _, (db.deleteWhere (·.id = e.session.id)).1.keys.insertSession hfree⟩, ?_, rfl, rfl⟩
  simp only [recordStmts, Db.begin, Tx.run, exec]
  rw [dif_neg hfree]

/-- After a record's first two statements the session is there, with no table rows yet. -/
theorem run_recordStmts_fresh (db : Db) (e : Entry) {w : Db}
    (hws : w.sessions = (db.deleteWhere (·.id = e.session.id)).1.sessions ++ [e.session])
    (hwt : w.tables = (db.deleteWhere (·.id = e.session.id)).1.tables) :
    e.session.id ∈ w.sessions.map (·.id) ∧ w.rowsOf e.session.id = [] :=
  ⟨by simp [hws], (rowsOf_congr hwt _).trans (db.rowsOf_clear e.session.id)⟩

/-- **A record whose tables have distinct names commits**: the database then holds the session
in place of any earlier one under its id, with exactly its tables. -/
theorem record_commits (db : Db) {e : Entry} (he : (e.lines.map (·.name)).Nodup) :
    ∃ d, db.record e = (d, none) ∧
      d.contents = db.contents.insert e.session.id (e.session, e.lines) := by
  obtain ⟨w, hrun, hws, hwt⟩ := db.run_recordStmts e
  obtain ⟨hid, hempty⟩ := db.run_recordStmts_fresh e hws hwt
  obtain ⟨t, ht, -, hts, htt⟩ := Tx.run_tableStmts_ok ⟨db, w⟩ hid
    (by rw [hempty, List.nil_append]; exact he)
  refine ⟨t.work, by rw [Db.record, hrun, ht]; rfl, Finmap.ext_lookup fun x => ?_⟩
  have hrows := w.rowsOf_append_rows htt x
  by_cases hx : x = e.session.id
  · -- the session's own id: its new row, with exactly its tables
    subst hx
    rw [Finmap.lookup_insert, lookup_contents_eq_some]
    refine ⟨by simp [hts, hws], rfl, ?_⟩
    rw [hrows, hempty, if_pos rfl, List.nil_append]
  · -- any other id: its row and tables as they were
    rw [Finmap.lookup_insert_of_ne _ hx]
    refine Option.ext fun v => ?_
    rw [lookup_contents_eq_some, lookup_contents_eq_some, hrows, if_neg (Ne.symm hx),
      List.append_nil, rowsOf_congr hwt, db.rowsOf_clear_of_ne hx, hts, hws]
    simp only [deleteWhere, List.mem_append, List.mem_filter, List.mem_singleton]
    constructor
    · rintro ⟨hv | hv, hid, hr⟩
      · exact ⟨hv.1, hid, hr⟩
      · rw [hv] at hid
        exact absurd hid.symm hx
    · rintro ⟨hv, hid, hr⟩
      exact ⟨.inl ⟨hv, by simp [hid, hx]⟩, hid, hr⟩

/-- **A record that names a table twice rolls back**: the database is the one it began on. -/
theorem record_rolls_back (db : Db) {e : Entry} (he : ¬ (e.lines.map (·.name)).Nodup) :
    ∃ m, db.record e = (db, some m) := by
  obtain ⟨w, hrun, hws, hwt⟩ := db.run_recordStmts e
  obtain ⟨hid, hempty⟩ := db.run_recordStmts_fresh e hws hwt
  obtain ⟨m, t, ht⟩ := Tx.run_tableStmts_error ⟨db, w⟩ hid
    (by rw [hempty, List.nil_append]; exact he)
  have hbase : t.base = db := Tx.run_error_base ht
  exact ⟨m, by rw [Db.record, hrun, ht]; simp [Tx.rollback, hbase]⟩

/-- A record that commits had tables under distinct names, and put the session in place. -/
theorem record_eq_none {db d : Db} {e : Entry} (h : db.record e = (d, none)) :
    (e.lines.map (·.name)).Nodup ∧
      d.contents = db.contents.insert e.session.id (e.session, e.lines) := by
  by_cases he : (e.lines.map (·.name)).Nodup
  · obtain ⟨d', hd', hc⟩ := db.record_commits he
    rw [hd'] at h
    cases h
    exact ⟨he, hc⟩
  · obtain ⟨m, hm⟩ := db.record_rolls_back he
    rw [hm] at h
    cases h

/-! ### The queries -/

/-- Sessions with distinct ids have at most one under an id: the one found. -/
theorem filter_id_eq_find? {l : List Session} (hl : (l.map (·.id)).Nodup) (id : String) :
    l.filter (·.id = id) = (l.find? (·.id = id)).toList := by
  induction l with
  | nil => rfl
  | cons s rest ih =>
    rw [List.map_cons, List.nodup_cons] at hl
    by_cases h : s.id = id
    · -- `s` has the id, and no later session has it again
      subst h
      rw [List.filter_cons_of_pos (by simp), List.find?_cons_of_pos (by simp),
        List.filter_eq_nil_iff.mpr]
      · rfl
      · intro t ht htid
        exact hl.1 (List.mem_map.mpr ⟨t, ht, by simpa using htid⟩)
    · rw [List.filter_cons_of_neg (by simpa using h), List.find?_cons_of_neg (by simpa using h),
        ih hl.2]

/-- The listing's query selects every session row, in its clause's order. -/
theorem select_listQuery_none (db : Db) :
    db.select (listQuery none) = orderBy Session.get (listQuery none).orderBy db.sessions := by
  simp [select, listQuery]

/-- A limit cuts the listing. -/
theorem select_listQuery_some (db : Db) (k : Nat) :
    db.select (listQuery (some k)) = (db.select (listQuery none)).take k := by
  simp [select, listQuery]

/-- **The listing lists the contents.** -/
theorem select_lists (db : Db) : db.contents.Lists (db.select (listQuery none)) := by
  rw [select_listQuery_none]
  refine ⟨pairwise_newer_orderBy db.keys.ids none, fun s => ?_⟩
  rw [orderBy, List.mem_mergeSort]
  constructor
  · intro hs
    exact ⟨db.rowsOf s.id, db.lookup_contents_eq_some.mpr ⟨hs, rfl, rfl⟩⟩
  · rintro ⟨ls, hls⟩
    exact (db.lookup_contents_eq_some.mp hls).1

/-- **The session query selects the session under the id**, when there is one. -/
theorem select_sessionQuery (db : Db) (id : String) :
    db.select (sessionQuery id) = ((db.contents.lookup id).map (·.1)).toList := by
  -- no clause orders the rows, and at most one row has the id
  have hsel : db.select (sessionQuery id) = db.sessions.filter (·.id = id) := by
    simp only [select, sessionQuery, orderBy, Option.all_some]
    rw [List.mergeSort_of_pairwise
      (List.pairwise_of_forall fun a b => (rfl : orderLe Session.get [] a b = true))]
    exact List.filter_congr fun s _ => by simp [eq_comm]
  rw [hsel, filter_id_eq_find? db.keys.ids, lookup_contents, Option.map_map]
  simp [Function.comp_def]

/-- **The tables query lists the rows under the id by name.** -/
theorem selectTables_tablesQuery (db : Db) (id : String) :
    db.selectTables (tablesQuery id) =
      (db.rowsOf id).mergeSort fun a b => decide (a.name ≤ b.name) := by
  rw [selectTables, orderBy, rowsOf]
  exact List.map_mergeSort fun a _ b _ => orderLe_tablesQuery id a b

/-! ### Pruning -/

/-- **Pruning's subquery is the listing cut to `k`**: the two statements write one `ORDER BY`. -/
theorem exec_pruneStmt (db : Db) (k : Nat) :
    db.exec (pruneStmt k) = .ok (db.deleteWhere fun s =>
      !(((db.select (listQuery none)).take k).map (·.id)).contains s.id) := by
  rw [← select_listQuery_some]
  rfl

/-- **What pruning keeps**: the sessions among the first `k` of the listing, each with its
tables. -/
theorem lookup_prune (db : Db) (k : Nat) (id : String) :
    (db.deleteWhere fun s =>
        !(((db.select (listQuery none)).take k).map (·.id)).contains s.id).1.contents.lookup id =
      if id ∈ ((db.select (listQuery none)).take k).map (·.id) then db.contents.lookup id
      else none := by
  rw [lookup_deleteWhere]
  cases hl : db.contents.lookup id with
  | none => simp
  | some v =>
    have hid : v.1.id = id := (db.lookup_contents_eq_some.mp hl).2.1
    by_cases hk : id ∈ ((db.select (listQuery none)).take k).map (·.id) <;>
      rw [List.map_take] at hk <;> simp [hid, hk]

/-- **Pruning counts the sessions past the first `k` of the listing.** -/
theorem prune_removed (db : Db) (k : Nat) :
    (db.deleteWhere fun s =>
        !(((db.select (listQuery none)).take k).map (·.id)).contains s.id).2 =
      ((db.select (listQuery none)).drop k).length := by
  set xs := db.select (listQuery none) with hxs
  set p : Session → Bool := fun s => !((xs.take k).map (·.id)).contains s.id
  have hperm : xs.Perm db.sessions := by
    rw [hxs, select_listQuery_none]
    exact List.mergeSort_perm _ _
  have hids : ((xs.take k).map (·.id) ++ (xs.drop k).map (·.id)).Nodup := by
    rw [← List.map_append, List.take_append_drop]
    exact (hperm.map _).nodup_iff.mpr db.keys.ids
  -- the listing's head is kept, and its tail goes since its ids are not the head's
  have hhead : (xs.take k).filter p = [] :=
    List.filter_eq_nil_iff.mpr fun s hs => by
      have hin : s.id ∈ (xs.take k).map (·.id) := List.mem_map_of_mem hs
      simpa [p] using hin
  have htail : (xs.drop k).filter p = xs.drop k :=
    List.filter_eq_self.mpr fun s hs => by
      have hout := fun hin => (List.nodup_append.mp hids).2.2 _ hin _ (List.mem_map_of_mem hs) rfl
      simpa [p] using hout
  have hsplit : xs.filter p = (xs.take k).filter p ++ (xs.drop k).filter p := by
    rw [← List.filter_append, List.take_append_drop]
  show (db.sessions.filter p).length = _
  rw [← (hperm.filter p).length_eq, hsplit, hhead, htail, List.nil_append]

end Db
end ConfigTables.Journal
