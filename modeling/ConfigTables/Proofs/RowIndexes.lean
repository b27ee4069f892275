import Mathlib
import ConfigTables.Proofs.RoundTrip
/-!
# The row indexes of the built-in tables

After a row table's file is read, its own hook walks the rows in file order and indexes each
row's position by its id (`RowIndex.build`); the item table also groups positions by the row's
type. The walk stops at the first absent row or the first id seen twice, and a repeated id has
by then already been pointed at the later row.

* §1 — insertion-ordered indexes and groups: what a lookup, the key list and the value list
  are after one `put` or `add`, and after a run of `add`s (`Group.get_addAll`,
  `Group.keys_addAll_empty`).
* §2 — the walk: over rows that are all present with distinct ids it indexes each at its
  position (`RowIndex.build_present`); it stops at an absent row or at a repeated id with the
  index of the rows before it (`RowIndex.build_null`, `RowIndex.build_duplicate`).
* §3 — the lookups through such an index: `Get` by id, the rows in index order, the rows of a
  type and the types (`Shows`).
* §4 — `afterLoad_indexes_rows`: the hook is done exactly when no row is absent and the ids
  are distinct, and then every lookup reads the rows in file order; otherwise it reports the
  first offending row and the lookups read the rows before it.
-/

namespace ConfigTables

/-! ## §1 — insertion-ordered indexes and groups -/

namespace Index

variable {κ ν : Type} [DecidableEq κ]

@[simp] theorem get?_empty (k : κ) : (empty : Index κ ν).get? k = none := rfl

omit [DecidableEq κ] in
@[simp] theorem keys_empty : (empty : Index κ ν).keys = [] := rfl

/-- The test `put` makes is membership among the keys. -/
theorem any_key_iff (x : Index κ ν) (k : κ) :
    x.entries.any (fun e => decide (e.1 = k)) = true ↔ k ∈ x.keys := by
  simp only [List.any_eq_true, decide_eq_true_eq, keys, List.mem_map]

/-- A key has a value exactly when it is one of the keys. -/
theorem isSome_get?_iff (x : Index κ ν) (k : κ) : (x.get? k).isSome ↔ k ∈ x.keys := by
  rw [← any_key_iff, get?, Option.isSome_map, List.find?_isSome, List.any_eq_true]

theorem get?_eq_none_iff (x : Index κ ν) (k : κ) : x.get? k = none ↔ k ∉ x.keys := by
  rw [← isSome_get?_iff, Option.not_isSome_iff_eq_none]

/-- With distinct keys, an entry gives its key's value. -/
theorem get?_of_mem {x : Index κ ν} (hnd : x.keys.Nodup) {k : κ} {v : ν}
    (h : (k, v) ∈ x.entries) : x.get? k = some v := by
  obtain ⟨e, he⟩ : ∃ e, x.entries.find? (fun e => decide (e.1 = k)) = some e := by
    rw [← Option.isSome_iff_exists, List.find?_isSome]
    exact ⟨(k, v), h, by simp⟩
  have hek : e.1 = k := by simpa using List.find?_some he
  -- the entry found and `(k, v)` have one key, and keys are distinct
  have heq : e = (k, v) :=
    List.inj_on_of_nodup_map hnd (List.mem_of_find?_eq_some he) h hek
  simp [get?, he, heq]

/-- Putting a present key changes its value in place, and says so. -/
theorem put_of_mem {x : Index κ ν} {k : κ} (h : k ∈ x.keys) (v : ν) :
    x.put k v = (⟨x.entries.map (fun e => if e.1 = k then (k, v) else e)⟩, true) := by
  simp [put, (any_key_iff x k).mpr h]

/-- Putting a new key adds it last, and says nothing was replaced. -/
theorem put_of_not_mem {x : Index κ ν} {k : κ} (h : k ∉ x.keys) (v : ν) :
    x.put k v = (⟨x.entries ++ [(k, v)]⟩, false) := by
  have hany : x.entries.any (fun e => decide (e.1 = k)) = false := by
    rw [← Bool.not_eq_true, any_key_iff]
    exact h
  simp [put, hany]

/-- `put` replaces exactly when the key is there. -/
theorem put_replaced (x : Index κ ν) (k : κ) (v : ν) : (x.put k v).2 = (x.get? k).isSome := by
  by_cases h : k ∈ x.keys
  · rw [put_of_mem h, (isSome_get?_iff x k).mpr h]
  · rw [put_of_not_mem h, (get?_eq_none_iff x k).mpr h]
    rfl

theorem get?_put (x : Index κ ν) (k k' : κ) (v : ν) :
    (x.put k v).1.get? k' = if k' = k then some v else x.get? k' := by
  by_cases h : k ∈ x.keys
  · -- a present key keeps its place: every entry keeps its key, and `k`'s takes `v`
    rw [put_of_mem h]
    simp only [get?, List.find?_map]
    have hkey : ((fun e => decide (e.1 = k')) ∘ fun e : κ × ν => if e.1 = k then (k, v) else e) =
        fun e => decide (e.1 = k') := by
      funext e
      by_cases he : e.1 = k <;> simp [he]
    rw [hkey]
    rcases hf : x.entries.find? (fun e => decide (e.1 = k')) with _ | e
    · -- no entry of `k'`, so `k'` is not the present key `k`
      have hk : k' ≠ k := by
        rintro rfl
        have hsome := (isSome_get?_iff x k').mpr h
        simp [get?, hf] at hsome
      simp [hk, hf]
    · have hek : e.1 = k' := by simpa using List.find?_some hf
      by_cases hk : k' = k
      · subst hk
        simp [hf, hek]
      · simp [hf, hk, hek]
  · -- a new key goes last, after every entry of another key
    rw [put_of_not_mem h]
    have hnone : x.get? k = none := (get?_eq_none_iff x k).mpr h
    simp only [get?, List.find?_append] at hnone ⊢
    by_cases hk : k' = k
    · subst hk
      rw [Option.map_eq_none_iff] at hnone
      simp [hnone]
    · simp [hk, Ne.symm hk]

theorem keys_put (x : Index κ ν) (k : κ) (v : ν) :
    (x.put k v).1.keys = if k ∈ x.keys then x.keys else x.keys ++ [k] := by
  by_cases h : k ∈ x.keys
  · rw [put_of_mem h, if_pos h]
    simp only [keys, List.map_map]
    congr 1
    funext e
    by_cases he : e.1 = k <;> simp [he]
  · rw [put_of_not_mem h, if_neg h]
    simp [keys]

/-- Putting a present key changes its value in place. -/
theorem values_put_of_mem {x : Index κ ν} {k : κ} (h : k ∈ x.keys) (v : ν) :
    (x.put k v).1.values = x.entries.map (fun e => if e.1 = k then v else e.2) := by
  rw [put_of_mem h]
  simp only [values, List.map_map]
  congr 1
  funext e
  by_cases he : e.1 = k <;> simp [he]

/-- A key that is new goes last, one that is there stays where it is. -/
theorem eraseDups_append_singleton (ks : List κ) (k : κ) :
    (ks ++ [k]).eraseDups = if k ∈ ks then ks.eraseDups else ks.eraseDups ++ [k] := by
  rw [List.eraseDups_append]
  by_cases hk : k ∈ ks
  · have hrm : [k].removeAll ks = [] := by simp [List.removeAll, hk]
    simp [hk, hrm]
  · have hrm : [k].removeAll ks = [k] := by simp [List.removeAll, hk]
    simp [hk, hrm, List.eraseDups_cons]

end Index

namespace Group

variable {κ ν : Type} [DecidableEq κ]

@[simp] theorem get?_empty (k : κ) : (empty : Group κ ν).get? k = none := rfl

@[simp] theorem get_empty (k : κ) : (empty : Group κ ν).get k = [] := rfl

omit [DecidableEq κ] in
@[simp] theorem keys_empty : (empty : Group κ ν).keys = [] := rfl

theorem get?_add (g : Group κ ν) (k k' : κ) (v : ν) :
    (g.add k v).get? k' = if k' = k then some (g.get k ++ [v]) else g.get? k' := by
  simp [add, get?, get, Index.get?_put]

theorem get_add (g : Group κ ν) (k k' : κ) (v : ν) :
    (g.add k v).get k' = if k' = k then g.get k ++ [v] else g.get k' := by
  by_cases hk : k' = k <;> simp [get, get?_add, hk]

theorem keys_add (g : Group κ ν) (k : κ) (v : ν) :
    (g.add k v).keys = if k ∈ g.keys then g.keys else g.keys ++ [k] := by
  unfold add keys
  exact Index.keys_put _ _ _

theorem get?_eq_none_iff (g : Group κ ν) (k : κ) : g.get? k = none ↔ k ∉ g.keys :=
  Index.get?_eq_none_iff g.index k

/-- Values added one pair after another. -/
def addAll (g : Group κ ν) (ps : List (κ × ν)) : Group κ ν :=
  ps.foldl (fun g p => g.add p.1 p.2) g

@[simp] theorem addAll_nil (g : Group κ ν) : g.addAll [] = g := rfl

theorem addAll_append (g : Group κ ν) (xs ys : List (κ × ν)) :
    g.addAll (xs ++ ys) = (g.addAll xs).addAll ys := by
  simp [addAll, List.foldl_append]

theorem addAll_append_singleton (g : Group κ ν) (ps : List (κ × ν)) (p : κ × ν) :
    g.addAll (ps ++ [p]) = (g.addAll ps).add p.1 p.2 := by
  rw [addAll_append]
  rfl

/-- **A key's values are those added under it, in the order they were added.** -/
theorem get_addAll (g : Group κ ν) (ps : List (κ × ν)) (k : κ) :
    (g.addAll ps).get k = g.get k ++ (ps.filter (fun p => p.1 = k)).map (·.2) := by
  induction ps using List.reverseRecOn with
  | nil => simp
  | append_singleton ps p ih =>
    rw [addAll_append_singleton, get_add]
    by_cases hk : k = p.1
    · subst hk
      simp [ih]
    · simp [ih, hk, Ne.symm hk]

/-- **The keys of a group are the keys added, each where it was first added.** -/
theorem keys_addAll_empty (ps : List (κ × ν)) :
    (empty.addAll ps).keys = (ps.map (·.1)).eraseDups := by
  induction ps using List.reverseRecOn with
  | nil => rfl
  | append_singleton ps p ih =>
    rw [addAll_append_singleton, keys_add, ih, List.map_append, List.map_singleton,
      Index.eraseDups_append_singleton]
    simp only [List.mem_eraseDups]

/-- A key has no values exactly when none was added under it. -/
theorem get?_addAll_empty_eq_none_iff (ps : List (κ × ν)) (k : κ) :
    (empty.addAll ps).get? k = none ↔ ∀ p ∈ ps, p.1 ≠ k := by
  rw [get?_eq_none_iff, keys_addAll_empty, List.mem_eraseDups, List.mem_map]
  constructor
  · rintro h p hp rfl
    exact h ⟨p, hp, rfl⟩
  · rintro h ⟨p, hp, rfl⟩
    exact h p hp rfl

end Group

/-! ## §2 — the walk over the rows -/

/-- Rows every one of which is present, with distinct ids. -/
def RowsWellFormed (rows : List (Option (List Datum))) : Prop :=
  (∀ r ∈ rows, r.isSome) ∧ ((rows.filterMap id).map (fieldInt · 0)).Nodup

instance : DecidablePred RowsWellFormed := fun _ => inferInstanceAs (Decidable (_ ∧ _))

/-- Rows that are all present are their present rows. -/
theorem eq_map_some_of_forall_isSome {rows : List (Option (List Datum))}
    (h : ∀ r ∈ rows, r.isSome) : rows = (rows.filterMap id).map some := by
  induction rows with
  | nil => rfl
  | cons r rows ih =>
    obtain ⟨fs, rfl⟩ := Option.isSome_iff_exists.mp (h r List.mem_cons_self)
    have hrows := ih (fun r hr => h r (List.mem_cons_of_mem _ hr))
    calc some fs :: rows = some fs :: (rows.filterMap id).map some := by rw [← hrows]
      _ = ((some fs :: rows).filterMap id).map some := by simp

theorem rowsWellFormed_map_some (rows : List (List Datum)) :
    RowsWellFormed (rows.map some) ↔ (rows.map (fieldInt · 0)).Nodup := by
  simp [RowsWellFormed, List.filterMap_map]

/-- An absent row, or a row repeating an id of the rows before it, spoils the rows. -/
theorem not_rowsWellFormed_of_fault {pre : List (List Datum)} {r : Option (List Datum)}
    {post : List (Option (List Datum))}
    (hr : r = none ∨ ∃ fs, r = some fs ∧ fieldInt fs 0 ∈ pre.map (fieldInt · 0)) :
    ¬ RowsWellFormed (pre.map some ++ r :: post) := by
  rintro ⟨hsome, hnd⟩
  rcases hr with rfl | ⟨fs, rfl, hd⟩
  · simpa using hsome none (by simp)
  · -- the repeated id stands twice among the ids of the present rows
    simp only [List.filterMap_append, List.filterMap_map, List.filterMap_cons, id,
      Function.comp_def, List.filterMap_some, List.map_append, List.map_cons] at hnd
    exact (List.nodup_append.mp hnd).2.2 _ hd _ List.mem_cons_self rfl

/-- **Rows that are not well formed have a first offending row**: the rows before it are
present with distinct ids, and it is absent or repeats one of their ids. -/
theorem exists_first_fault {rows : List (Option (List Datum))} (h : ¬ RowsWellFormed rows) :
    ∃ (pre : List (List Datum)) (r : Option (List Datum)) (post : List (Option (List Datum))),
      rows = pre.map some ++ r :: post ∧ (pre.map (fieldInt · 0)).Nodup ∧
      (r = none ∨ ∃ fs, r = some fs ∧ fieldInt fs 0 ∈ pre.map (fieldInt · 0)) := by
  induction rows using List.reverseRecOn with
  | nil => exact absurd ⟨by simp, by simp⟩ h
  | append_singleton rows r ih =>
    by_cases hw : RowsWellFormed rows
    · -- the rows before the last are fine, so the last one offends
      obtain ⟨hsome, hnd⟩ := hw
      refine ⟨rows.filterMap id, r, [], ?_, hnd, ?_⟩
      · rw [← eq_map_some_of_forall_isSome hsome]
      · rcases r with _ | fs
        · exact .inl rfl
        · refine .inr ⟨fs, rfl, ?_⟩
          by_contra hfresh
          apply h
          have hrows : rows ++ [some fs] = (rows.filterMap id ++ [fs]).map some := by
            rw [List.map_append, ← eq_map_some_of_forall_isSome hsome]
            rfl
          rw [hrows, rowsWellFormed_map_some, List.map_append, List.nodup_append]
          refine ⟨hnd, by simp, fun a ha b hb hab => hfresh ?_⟩
          simp only [List.map_cons, List.map_nil, List.mem_singleton] at hb
          rw [← hb, ← hab]
          exact ha
    · obtain ⟨pre, r', post, rfl, hnd, hr⟩ := ih hw
      exact ⟨pre, r', post ++ [r], by simp, hnd, hr⟩

namespace RowIndex

/-- The index entries of rows at positions `0, 1, …`: each row's id with its position. -/
def idEntries (rows : List (List Datum)) : List (Int × Nat) :=
  rows.zipIdx.map fun p => (fieldInt p.1 0, p.2)

/-- The types of rows at positions `0, 1, …`, each with its position. -/
def typePairs (rows : List (List Datum)) : List (String × Nat) :=
  rows.zipIdx.map fun p => (fieldText p.1 2, p.2)

/-- The index of rows with distinct ids at positions `0, 1, …`: each id at its row's position
and, for the item table, positions grouped by type. -/
def ofRows (ty : TableType) (rows : List (List Datum)) : RowIndex :=
  ⟨⟨idEntries rows⟩, if ty = .itemConf then Group.empty.addAll (typePairs rows) else Group.empty⟩

theorem ofRows_nil (ty : TableType) : ofRows ty [] = RowIndex.empty := by
  by_cases h : ty = .itemConf <;>
    simp [ofRows, h, idEntries, typePairs, RowIndex.empty, Index.empty]

theorem keys_ofRows (ty : TableType) (rows : List (List Datum)) :
    (ofRows ty rows).byId.keys = rows.map (fieldInt · 0) := by
  simp only [ofRows, Index.keys, idEntries, List.map_map]
  conv_rhs => rw [← List.zipIdx_map_fst 0 rows, List.map_map]
  rfl

/-- With distinct ids, the index of rows finds each row's position by its id. -/
theorem get?_ofRows_of_mem (ty : TableType) {rows : List (List Datum)}
    (hnd : (rows.map (fieldInt · 0)).Nodup) {p : List Datum × Nat} (hp : p ∈ rows.zipIdx) :
    (ofRows ty rows).byId.get? (fieldInt p.1 0) = some p.2 :=
  Index.get?_of_mem (keys_ofRows ty rows ▸ hnd) (List.mem_map.mpr ⟨p, hp, rfl⟩)

theorem ofRows_append_singleton (ty : TableType) (rows : List (List Datum)) (fs : List Datum) :
    ofRows ty (rows ++ [fs]) =
      ⟨⟨(ofRows ty rows).byId.entries ++ [(fieldInt fs 0, rows.length)]⟩,
        if ty = .itemConf then (ofRows ty rows).byType.add (fieldText fs 2) rows.length
        else (ofRows ty rows).byType⟩ := by
  by_cases h : ty = .itemConf <;>
    simp [ofRows, h, idEntries, typePairs, List.zipIdx_append, Group.addAll_append_singleton]

/-- A present row with a new id is indexed at its position, and the walk goes on. -/
theorem build_cons_fresh (ty : TableType) (seen : List (List Datum)) {fs : List Datum}
    (h : fieldInt fs 0 ∉ seen.map (fieldInt · 0)) (rest : List (Option (List Datum))) :
    build ty seen.length (ofRows ty seen) (some fs :: rest) =
      build ty (seen ++ [fs]).length (ofRows ty (seen ++ [fs])) rest := by
  have hput := Index.put_of_not_mem (x := (ofRows ty seen).byId)
    (by rwa [keys_ofRows]) seen.length
  simp only [build, hput, Bool.false_eq_true, if_false, ofRows_append_singleton,
    List.length_append, List.length_singleton]

/-- **Over present rows with distinct ids, the walk indexes each row at its position.** -/
theorem build_present (ty : TableType) (rest : List (List Datum)) :
    ∀ (seen : List (List Datum)) (tail : List (Option (List Datum))),
      ((seen ++ rest).map (fieldInt · 0)).Nodup →
      build ty seen.length (ofRows ty seen) (rest.map some ++ tail) =
        build ty (seen ++ rest).length (ofRows ty (seen ++ rest)) tail := by
  induction rest with
  | nil => intro seen tail _; simp
  | cons fs rest ih =>
    intro seen tail hnd
    have hfresh : fieldInt fs 0 ∉ seen.map (fieldInt · 0) := by
      rw [List.map_append, List.nodup_append] at hnd
      exact fun hmem => hnd.2.2 _ hmem _ (by simp) rfl
    rw [List.map_cons, List.cons_append, build_cons_fresh ty seen hfresh,
      ih (seen ++ [fs]) tail (by simpa using hnd)]
    simp

/-- Rows all present with distinct ids are indexed, each at its position, with no fault. -/
theorem build_wellFormed (ty : TableType) {rows : List (List Datum)}
    (h : (rows.map (fieldInt · 0)).Nodup) :
    build ty 0 RowIndex.empty (rows.map some) = (ofRows ty rows, none) := by
  have hrun := build_present ty rows [] [] (by simpa using h)
  simp only [List.length_nil, ofRows_nil, List.append_nil, List.nil_append] at hrun
  rw [hrun, build]

/-- **An absent row stops the walk**, with the rows before it indexed and a fault naming its
position. -/
theorem build_null (ty : TableType) {pre : List (List Datum)} (h : (pre.map (fieldInt · 0)).Nodup)
    (post : List (Option (List Datum))) :
    build ty 0 RowIndex.empty (pre.map some ++ none :: post) =
      (ofRows ty pre, some (nullRowFault pre.length)) := by
  have hrun := build_present ty pre [] (none :: post) (by simpa using h)
  simp only [List.length_nil, ofRows_nil, List.nil_append] at hrun
  rw [hrun, build]

/-- **A repeated id stops the walk**, with the rows before it indexed, the repeated id already
pointed at the later row, and a fault naming the id. -/
theorem build_duplicate (ty : TableType) {pre : List (List Datum)} {fs : List Datum}
    (h : (pre.map (fieldInt · 0)).Nodup) (hd : fieldInt fs 0 ∈ pre.map (fieldInt · 0))
    (post : List (Option (List Datum))) :
    build ty 0 RowIndex.empty (pre.map some ++ some fs :: post) =
      ({ ofRows ty pre with byId := ((ofRows ty pre).byId.put (fieldInt fs 0) pre.length).1 },
        some (.text ("duplicate " ++ ty.rowWord ++ " id " ++ toString (fieldInt fs 0)))) := by
  have hrun := build_present ty pre [] (some fs :: post) (by simpa using h)
  simp only [List.length_nil, ofRows_nil, List.nil_append] at hrun
  have hput := Index.put_of_mem (x := (ofRows ty pre).byId) (k := fieldInt fs 0)
    (by rwa [keys_ofRows]) pre.length
  rw [hrun, build, hput]
  rfl

/-- **What the walk does over any rows**: rows all present with distinct ids are indexed at
their positions with no fault; otherwise the walk stops at the first offending row, with the
index of the rows before it and the offender's fault. -/
theorem build_cases (ty : TableType) (rows : List (Option (List Datum))) :
    (RowsWellFormed rows ∧ build ty 0 .empty rows = (ofRows ty (rows.filterMap id), none)) ∨
    ∃ (pre : List (List Datum)) (r : Option (List Datum)) (post : List (Option (List Datum))),
      rows = pre.map some ++ r :: post ∧ (pre.map (fieldInt · 0)).Nodup ∧
      ((r = none ∧ build ty 0 .empty rows = (ofRows ty pre, some (nullRowFault pre.length))) ∨
       (∃ fs, r = some fs ∧ fieldInt fs 0 ∈ pre.map (fieldInt · 0) ∧
         build ty 0 .empty rows =
           ({ ofRows ty pre with byId := ((ofRows ty pre).byId.put (fieldInt fs 0) pre.length).1 },
             some (.text ("duplicate " ++ ty.rowWord ++ " id " ++ toString (fieldInt fs 0)))))) := by
  by_cases hw : RowsWellFormed rows
  · refine .inl ⟨hw, ?_⟩
    conv_lhs => rw [eq_map_some_of_forall_isSome hw.1]
    exact build_wellFormed ty hw.2
  · obtain ⟨pre, r, post, rfl, hnd, hr⟩ := exists_first_fault hw
    refine .inr ⟨pre, r, post, rfl, hnd, ?_⟩
    rcases hr with rfl | ⟨fs, rfl, hd⟩
    · exact .inl ⟨rfl, build_null ty hnd post⟩
    · exact .inr ⟨fs, rfl, hd, build_duplicate ty hnd hd post⟩

end RowIndex

/-! ## §3 — the lookups through an index -/

namespace Hub.Table

open RowIndex

theorem row_of_get? {t : Table} {id : Int} {i : Nat} {fs : List Datum}
    (hi : t.index.byId.get? id = some i) (hr : t.data.rows[i]? = some (some fs)) :
    t.row id = .ok fs := by
  simp [Table.row, hi, hr]

theorem row_of_get?_none {t : Table} {id : Int} (h : t.index.byId.get? id = none) :
    t.row id = .error (keyFault t.name (toString id)) := by
  simp [Table.row, h]

/-- Positions that each hold a present row read as those rows, in order. -/
theorem rowsAt_of_forall (t : Table) (ps : List (List Datum × Nat))
    (h : ∀ p ∈ ps, t.data.rows[p.2]? = some (some p.1)) :
    t.rowsAt (ps.map (·.2)) = ps.map (·.1) := by
  induction ps with
  | nil => rfl
  | cons p ps ih =>
    have hp := h p List.mem_cons_self
    have hrest := ih (fun q hq => h q (List.mem_cons_of_mem _ hq))
    simp only [Table.rowsAt, List.map_cons, List.filterMap_cons, hp, Option.bind_some] at hrest ⊢
    rw [hrest]

/-- The table's rows start with the present rows `pre`: each stands at its position. -/
theorem rows_getElem?_of_mem_zipIdx {t : Table} {pre : List (List Datum)}
    {q : List (Option (List Datum))} (h : t.data.rows = pre.map some ++ q)
    {p : List Datum × Nat} (hp : p ∈ pre.zipIdx) : t.data.rows[p.2]? = some (some p.1) := by
  have hget : pre[p.2]? = some p.1 := List.mem_zipIdx_iff_getElem?.mp hp
  have hlt : p.2 < (pre.map some).length := by
    simpa using (List.getElem?_eq_some_iff.mp hget).1
  rw [h, List.getElem?_append_left hlt, List.getElem?_map, hget]
  rfl

/-- The row right after the present rows `pre` stands at position `pre.length`. -/
theorem rows_getElem?_length {t : Table} {pre : List (List Datum)} {r : Option (List Datum)}
    {post : List (Option (List Datum))} (h : t.data.rows = pre.map some ++ r :: post) :
    t.data.rows[pre.length]? = some r := by
  rw [h, List.getElem?_append_right (by simp)]
  simp

/-- What the lookups of an indexed row table of type `ty` read: `Get` finds each row of `byId`
by its id (their ids are distinct) and fails naming the table and the id for every other id,
the rows in index order are `byId`, and for the item table the rows of a type and the types,
in the order first seen, are those of `byType` (the other tables have none). -/
structure Shows (ty : TableType) (t : Table) (byId byType : List (List Datum)) : Prop where
  ids_nodup : (byId.map (fieldInt · 0)).Nodup
  row_of_mem : ∀ fs ∈ byId, t.row (fieldInt fs 0) = .ok fs
  row_of_not_mem : ∀ id, id ∉ byId.map (fieldInt · 0) →
    t.row id = .error (keyFault t.name (toString id))
  indexedRows_eq : t.indexedRows = byId
  rowsOfType_eq : ∀ s, t.rowsOfType s =
    if ty = .itemConf then byType.filter (fun fs => fieldText fs 2 = s) else []
  types_eq : t.types = if ty = .itemConf then (byType.map (fieldText · 2)).eraseDups else []

/-- The type groups of an index built from the present rows `pre` read those rows by type. -/
theorem byType_lookups {t : Table} {ty : TableType} {pre : List (List Datum)}
    {q : List (Option (List Datum))} (h : t.data.rows = pre.map some ++ q)
    (hb : t.index.byType = (ofRows ty pre).byType) :
    (∀ s, t.rowsOfType s =
      if ty = .itemConf then pre.filter (fun fs => fieldText fs 2 = s) else []) ∧
    t.types = if ty = .itemConf then (pre.map (fieldText · 2)).eraseDups else [] := by
  by_cases hty : ty = .itemConf
  · have hgroup : t.index.byType = Group.empty.addAll (typePairs pre) := by
      simp [hb, ofRows, hty]
    refine ⟨fun s => ?_, ?_⟩
    · -- the positions of a type are those of its rows, which read back as the rows
      have hpos : (Group.empty.addAll (typePairs pre)).get s =
          (pre.zipIdx.filter fun p => fieldText p.1 2 = s).map (·.2) := by
        rw [Group.get_addAll, Group.get_empty, List.nil_append, typePairs, List.filter_map,
          List.map_map]
        rfl
      have hrows : pre.filter (fun fs => fieldText fs 2 = s) =
          (pre.zipIdx.filter fun p => fieldText p.1 2 = s).map (·.1) := by
        conv_lhs => rw [← List.zipIdx_map_fst 0 pre]
        rw [List.filter_map]
        rfl
      rw [if_pos hty, Table.rowsOfType, hgroup, hpos, hrows]
      exact rowsAt_of_forall t _
        (fun p hp => rows_getElem?_of_mem_zipIdx h (List.mem_of_mem_filter hp))
    · rw [if_pos hty, Table.types, hgroup, Group.keys_addAll_empty, typePairs, List.map_map]
      conv_rhs => rw [← List.zipIdx_map_fst 0 pre, List.map_map]
      rfl
  · have hgroup : t.index.byType = Group.empty := by simp [hb, ofRows, hty]
    exact ⟨fun s => by simp [Table.rowsOfType, hgroup, hty, Table.rowsAt],
      by simp [Table.types, hgroup, hty]⟩

/-- **An index built from present rows with distinct ids reads those rows.** -/
theorem shows_ofRows {t : Table} {ty : TableType} {pre : List (List Datum)}
    {q : List (Option (List Datum))} (h : t.data.rows = pre.map some ++ q)
    (hnd : (pre.map (fieldInt · 0)).Nodup) (hidx : t.index = ofRows ty pre) :
    Shows ty t pre pre := by
  have hkeys : t.index.byId.keys = pre.map (fieldInt · 0) := by rw [hidx, keys_ofRows]
  obtain ⟨hof, htypes⟩ := byType_lookups h (by rw [hidx])
  refine ⟨hnd, fun fs hfs => ?_, fun id hid => ?_, ?_, hof, htypes⟩
  · -- a row of `pre` is indexed at its own position
    obtain ⟨i, hi⟩ := List.mem_iff_getElem?.mp hfs
    have hmem : (fs, i) ∈ pre.zipIdx := List.mk_mem_zipIdx_iff_getElem?.mpr hi
    refine row_of_get? (i := i) ?_ (rows_getElem?_of_mem_zipIdx h hmem)
    rw [hidx]
    exact get?_ofRows_of_mem ty hnd hmem
  · exact row_of_get?_none ((Index.get?_eq_none_iff _ _).mpr (hkeys ▸ hid))
  · have hvals : t.index.byId.values = pre.zipIdx.map (·.2) := by
      rw [hidx]
      simp only [ofRows, Index.values, idEntries, List.map_map]
      rfl
    rw [Table.indexedRows, hvals,
      rowsAt_of_forall t pre.zipIdx (fun p hp => rows_getElem?_of_mem_zipIdx h hp),
      List.zipIdx_map_fst]

/-- **After a repeated id, the index reads the rows before it**, except that the repeated id
finds the later row: in index order that row stands where the earlier one of its id stood. -/
theorem shows_duplicate {t : Table} {ty : TableType} {pre : List (List Datum)} {fs : List Datum}
    {post : List (Option (List Datum))} (h : t.data.rows = pre.map some ++ some fs :: post)
    (hnd : (pre.map (fieldInt · 0)).Nodup) (hd : fieldInt fs 0 ∈ pre.map (fieldInt · 0))
    (hidx : t.index =
      { ofRows ty pre with byId := ((ofRows ty pre).byId.put (fieldInt fs 0) pre.length).1 }) :
    Shows ty t (pre.map fun g => if fieldInt g 0 = fieldInt fs 0 then fs else g) pre := by
  set d := fieldInt fs 0
  have hkeys : (ofRows ty pre).byId.keys = pre.map (fieldInt · 0) := keys_ofRows ty pre
  have hdk : d ∈ (ofRows ty pre).byId.keys := hkeys ▸ hd
  have hget : ∀ id, t.index.byId.get? id = if id = d then some pre.length
      else (ofRows ty pre).byId.get? id := by
    intro id
    rw [hidx]
    exact Index.get?_put _ _ _ _
  -- the later row stands right after `pre`
  have hlater : t.data.rows[pre.length]? = some (some fs) := rows_getElem?_length h
  have hids : (pre.map fun g => if fieldInt g 0 = d then fs else g).map (fieldInt · 0) =
      pre.map (fieldInt · 0) := by
    rw [List.map_map]
    congr 1
    funext g
    by_cases hg : fieldInt g 0 = d <;> simp [hg, d]
  obtain ⟨hof, htypes⟩ := byType_lookups (q := some fs :: post) h (by rw [hidx])
  refine ⟨hids ▸ hnd, fun x hx => ?_, fun id hid => ?_, ?_, hof, htypes⟩
  · obtain ⟨g, hg, rfl⟩ := List.mem_map.mp hx
    by_cases hgd : fieldInt g 0 = d
    · rw [if_pos hgd]
      exact row_of_get? (by rw [hget, if_pos rfl]) hlater
    · -- a row of another id is read as before the repeat
      rw [if_neg hgd]
      obtain ⟨i, hi⟩ := List.mem_iff_getElem?.mp hg
      have hmem : (g, i) ∈ pre.zipIdx := List.mk_mem_zipIdx_iff_getElem?.mpr hi
      refine row_of_get? (i := i) ?_ (rows_getElem?_of_mem_zipIdx (q := some fs :: post) h hmem)
      rw [hget, if_neg hgd]
      exact get?_ofRows_of_mem ty hnd hmem
  · rw [hids] at hid
    have hne : id ≠ d := fun he => hid (he ▸ hd)
    refine row_of_get?_none ?_
    rw [hget, if_neg hne]
    exact (Index.get?_eq_none_iff _ _).mpr (hkeys ▸ hid)
  · -- in index order the repeated id now reads the later row
    have hvals : t.index.byId.values = (pre.zipIdx.map fun p =>
        if fieldInt p.1 0 = d then (fs, pre.length) else p).map (·.2) := by
      rw [hidx, Index.values_put_of_mem hdk]
      simp only [ofRows, idEntries, List.map_map]
      congr 1
      funext p
      by_cases hp : fieldInt p.1 0 = d <;> simp [hp]
    rw [Table.indexedRows, hvals, rowsAt_of_forall]
    · rw [List.map_map]
      conv_rhs => rw [← List.zipIdx_map_fst 0 pre, List.map_map]
      congr 1
      funext p
      by_cases hp : fieldInt p.1 0 = d <;> simp [hp]
    · intro q hq
      obtain ⟨p, hp, rfl⟩ := List.mem_map.mp hq
      by_cases hpd : fieldInt p.1 0 = d
      · simpa [hpd] using hlater
      · simpa [hpd] using rows_getElem?_of_mem_zipIdx (q := some fs :: post) h hp

/-! ## §4 — the own hook of a row table -/

/-- The own hook of a built-in row table rebuilds the index by the walk over its rows, and
fails with the walk's fault, if any. -/
theorem afterLoad_of_rows {t : Table} {ty : TableType} (hk : t.kind = .builtin ty)
    (hty : ty ≠ .themeConf) :
    t.afterLoad = some ({ t with index := (build ty 0 .empty t.data.rows).1 },
      (build ty 0 .empty t.data.rows).2.elim .done .failed) := by
  unfold Table.afterLoad
  rw [hk]
  cases ty
  case themeConf => exact absurd rfl hty
  all_goals
    rcases hb : build _ 0 .empty t.data.rows with ⟨idx, _ | e⟩ <;> simp [hb]

/-- How a row table's own hook ends on rows that have a first offending row: the rows before
it, `pre`, are present with distinct ids, and the offender is an absent row, reported by its
position, or a row repeating an id of `pre`, reported by that id; the lookups read `pre`,
except that the repeated id already finds the later row. -/
def FirstFault (ty : TableType) (t' : Table) (o : Outcome) (rows : List (Option (List Datum))) :
    Prop :=
  ∃ (pre : List (List Datum)) (r : Option (List Datum)) (post : List (Option (List Datum))),
    rows = pre.map some ++ r :: post ∧ (pre.map (fieldInt · 0)).Nodup ∧
    ((r = none ∧ o = .failed (nullRowFault pre.length) ∧ Shows ty t' pre pre) ∨
     (∃ fs, r = some fs ∧ fieldInt fs 0 ∈ pre.map (fieldInt · 0) ∧
        o = .failed (.text ("duplicate " ++ ty.rowWord ++ " id " ++ toString (fieldInt fs 0))) ∧
        Shows ty t' (pre.map fun g => if fieldInt g 0 = fieldInt fs 0 then fs else g) pre))

/-- **The own hook of a row table indexes its rows.** For every hero, item or task table and
every list of decoded rows, the hook keeps the table's data and is done exactly when every row
is present and the ids are distinct; then `Get` finds each row by its id and fails with a
not-found fault naming the table and the id for every other id, the rows in index order are
the rows in file order, and the item table's rows of a type and its types (first seen first)
follow the file. Otherwise it fails at the first offending row in file order, an absent row by
its position or a repeated id by that id, and the lookups read only the rows before it, except
that the repeated id already finds the later row. -/
theorem afterLoad_indexes_rows {t : Table} {ty : TableType} (hk : t.kind = .builtin ty)
    (hty : ty ≠ .themeConf) :
    ∃ t' o, t.afterLoad = some (t', o) ∧ t'.data = t.data ∧ t'.name = t.name ∧
      (o = .done ↔ RowsWellFormed t.data.rows) ∧
      (RowsWellFormed t.data.rows →
        Shows ty t' (t.data.rows.filterMap id) (t.data.rows.filterMap id)) ∧
      (¬ RowsWellFormed t.data.rows → FirstFault ty t' o t.data.rows) := by
  refine ⟨_, _, afterLoad_of_rows hk hty, rfl, rfl, ?_⟩
  rcases build_cases ty t.data.rows with ⟨hw, hb⟩ | ⟨pre, r, post, hrows, hnd, hr⟩
  · -- every row present with a new id: indexed in file order, and no fault
    refine ⟨by simp [hb, hw], fun _ => shows_ofRows (q := []) ?_ hw.2 (by simp [hb]),
      fun h => absurd hw h⟩
    rw [List.append_nil]
    exact eq_map_some_of_forall_isSome hw.1
  · -- the walk stopped at the first offending row
    have hw : ¬ RowsWellFormed t.data.rows := by
      rw [hrows]
      refine not_rowsWellFormed_of_fault ?_
      rcases hr with ⟨rfl, -⟩ | ⟨fs, rfl, hd, -⟩
      exacts [.inl rfl, .inr ⟨fs, rfl, hd⟩]
    refine ⟨?_, fun h => absurd h hw, fun _ => ⟨pre, r, post, hrows, hnd, ?_⟩⟩
    all_goals rcases hr with ⟨rfl, hb⟩ | ⟨fs, rfl, hd, hb⟩
    · simp [hb, hw]
    · simp [hb, hw]
    · exact .inl ⟨rfl, by simp [hb], shows_ofRows hrows hnd (by simp [hb])⟩
    · exact .inr ⟨fs, rfl, hd, by simp [hb], shows_duplicate hrows hnd hd (by simp [hb])⟩

/-- Two heroes with one id: the hook applies at a hero table. -/
theorem duplicate_hero_rows_indexed :
    let hero (id : Int) (name : String) : Datum :=
      .ref (some (.record [.int id, .text name, .text "", .int 0]))
    let t : Table := { Table.fresh (.builtin .heroConf) with
      data := .record .heroes [.list (some [hero 1 "A", hero 1 "B"])] }
    t.kind = .builtin .heroConf ∧ TableType.heroConf ≠ .themeConf ∧
    ∃ t' o, t.afterLoad = some (t', o) ∧ t'.data = t.data ∧ t'.name = t.name ∧
      (o = .done ↔ RowsWellFormed t.data.rows) ∧
      (RowsWellFormed t.data.rows →
        Shows .heroConf t' (t.data.rows.filterMap id) (t.data.rows.filterMap id)) ∧
      (¬ RowsWellFormed t.data.rows → FirstFault .heroConf t' o t.data.rows) :=
  ⟨rfl, by decide, afterLoad_indexes_rows rfl (by decide)⟩

end Hub.Table

end ConfigTables
