import Mathlib
import ConfigTables.Proofs.RowIndexes
/-!
# Indexes and groups against the list of calls made on them

An index or a group is only ever built by a run of calls on an empty one: puts for an index,
adds for a group. Every read is stated here against that list of calls alone.

* §1 — `Index.all_eq_forIn`: iterating an index is a `for` loop over its keys with their
  values, in key order, that breaks at the first `false` from `yield`, in any lawful monad.
* §2 — a run of puts: the keys are the keys put, each where it was first put
  (`Index.keys_putAll_empty`), a key's value is the one its last put gave it
  (`Index.get?_putAll_empty`), and each put keeps the keys distinct (`Index.nodup_keys_put`).
* §3 — `Index.FollowsPuts` and `Group.FollowsAdds` gather what every read answers after such a
  run; `ordered_runs_follow_calls` says every index and group built so follows its calls.
-/

namespace ConfigTables

namespace Index

variable {κ ν : Type} [DecidableEq κ]

/-! ## §1 — iterating an index -/

/-- The body of a `for` loop over entries that hands each to `yield` and breaks at its first
`false`. -/
def yieldStep {m : Type → Type} [Monad m] (yield : κ → ν → m Bool) (e : κ × ν) (_ : Unit) :
    m (ForInStep Unit) := do
  if ← yield e.1 e.2 then pure (.yield ()) else pure (.done ())

omit [DecidableEq κ] in
/-- The walk over entries is a `for` loop over them that breaks at the first `false`. -/
theorem all_walk_eq_forIn {m : Type → Type} [Monad m] [LawfulMonad m] (yield : κ → ν → m Bool)
    (es : List (κ × ν)) : all.walk yield es = forIn es () (yieldStep yield) := by
  induction es with
  | nil => simp [all.walk]
  | cons e rest ih =>
    simp only [all.walk, List.forIn_cons, yieldStep, bind_assoc]
    congr 1
    funext b
    cases b <;> simp [ih]

omit [DecidableEq κ] in
/-- **Iterating an index is a `for` loop over its keys with their values, in key order, that
stops at the first `false` from `yield`.** -/
theorem all_eq_forIn {m : Type → Type} [Monad m] [LawfulMonad m] (x : Index κ ν)
    (yield : κ → ν → m Bool) : x.all yield = forIn (x.keys.zip x.values) () (yieldStep yield) := by
  rw [all, all_walk_eq_forIn, keys, values, ← List.zip_of_prod rfl rfl]

/-! ## §2 — a run of puts -/

/-- The index after putting the pairs one after another. -/
def putAll (x : Index κ ν) (ps : List (κ × ν)) : Index κ ν :=
  ps.foldl (fun x p => (x.put p.1 p.2).1) x

@[simp] theorem putAll_nil (x : Index κ ν) : x.putAll [] = x := rfl

theorem putAll_append_singleton (x : Index κ ν) (ps : List (κ × ν)) (p : κ × ν) :
    x.putAll (ps ++ [p]) = ((x.putAll ps).put p.1 p.2).1 := by
  simp [putAll, List.foldl_append]

/-- The value the last put of a key gave it, if it was put. -/
def lastPut (ps : List (κ × ν)) (k : κ) : Option ν := ps.reverse.lookup k

@[simp] theorem lastPut_nil (k : κ) : lastPut ([] : List (κ × ν)) k = none := rfl

theorem lastPut_append_singleton (ps : List (κ × ν)) (p : κ × ν) (k : κ) :
    lastPut (ps ++ [p]) k = if k = p.1 then some p.2 else lastPut ps k := by
  obtain ⟨a, b⟩ := p
  by_cases hk : k = a
  · simp [lastPut, hk]
  · simp [lastPut, List.lookup_cons, hk, beq_false_of_ne hk]

/-- A put answers whether the key was there. -/
theorem put_replaced_iff_mem (x : Index κ ν) (k : κ) (v : ν) :
    (x.put k v).2 = decide (k ∈ x.keys) := by
  rw [put_replaced, Bool.eq_iff_iff, isSome_get?_iff, decide_eq_true_iff]

/-- **A put keeps the keys distinct.** -/
theorem nodup_keys_put {x : Index κ ν} (h : x.keys.Nodup) (k : κ) (v : ν) :
    (x.put k v).1.keys.Nodup := by
  rw [keys_put]
  split
  · exact h
  · next hk =>
    refine List.nodup_append.mpr ⟨h, List.nodup_singleton k, ?_⟩
    rintro a ha b hb rfl
    exact hk (List.mem_singleton.mp hb ▸ ha)

/-- With distinct keys, the value of each key stands beside it. -/
theorem map_get?_keys {x : Index κ ν} (h : x.keys.Nodup) :
    x.keys.map x.get? = x.values.map some := by
  rw [keys, values, List.map_map, List.map_map]
  exact List.map_congr_left fun e he => get?_of_mem h he

/-- The first entry is the first key with its value. -/
theorem first?_eq (x : Index κ ν) :
    x.first? = x.keys.head?.bind fun k => (x.get? k).map (k, ·) := by
  cases h : x.entries with
  | nil => simp [first?, keys, h]
  | cons e rest => simp [first?, keys, get?, h]

omit [DecidableEq κ] in
theorem size_eq_length_keys (x : Index κ ν) : x.size = x.keys.length := by
  simp [size, keys]

/-- **The keys after a run of puts are the keys put, each where it was first put.** -/
theorem keys_putAll_empty (ps : List (κ × ν)) :
    (empty.putAll ps).keys = (ps.map (·.1)).eraseDups := by
  induction ps using List.reverseRecOn with
  | nil => rfl
  | append_singleton ps p ih =>
    rw [putAll_append_singleton, keys_put, ih, List.map_append, List.map_singleton,
      eraseDups_append_singleton]
    simp only [List.mem_eraseDups]

/-- **A key's value after a run of puts is the value its last put gave it.** -/
theorem get?_putAll_empty (ps : List (κ × ν)) (k : κ) :
    (empty.putAll ps).get? k = lastPut ps k := by
  induction ps using List.reverseRecOn with
  | nil => rfl
  | append_singleton ps p ih =>
    rw [putAll_append_singleton, get?_put, ih, lastPut_append_singleton]

/-- The keys stay distinct along a run of puts. -/
theorem nodup_keys_putAll_empty (ps : List (κ × ν)) : (empty.putAll ps).keys.Nodup := by
  induction ps using List.reverseRecOn with
  | nil => exact List.nodup_nil
  | append_singleton ps p ih =>
    rw [putAll_append_singleton]
    exact nodup_keys_put ih p.1 p.2

/-! ## §3 — indexes and groups against the list of calls -/

/-- What an index built by the puts `ps` on an empty index answers, read off `ps` alone. -/
structure FollowsPuts (x : Index κ ν) (ps : List (κ × ν)) : Prop where
  /-- The keys are the keys put, each where it was first put. -/
  keys : x.keys = (ps.map (·.1)).eraseDups
  /-- Beside each key stands the value it was last put with. -/
  values : x.keys.map (lastPut ps) = x.values.map some
  /-- A key's value is the one it was last put with; a key never put has none. -/
  get? : ∀ k, x.get? k = lastPut ps k
  /-- One more put says whether its key was put before. -/
  put : ∀ k v, (x.put k v).2 = decide (k ∈ ps.map (·.1))
  /-- The size is the number of distinct keys put. -/
  size : x.size = (ps.map (·.1)).eraseDups.length
  /-- The first entry is the first key put, with the value it was last put with. -/
  first? : x.first? = ps.head?.bind fun p => (lastPut ps p.1).map (p.1, ·)
  /-- Iterating hands `yield` the keys with their values, in key order, and stops at its first
  `false`. -/
  all : ∀ (m : Type → Type) [Monad m] [LawfulMonad m] (yield : κ → ν → m Bool),
    x.all yield = forIn (x.keys.zip x.values) () (yieldStep yield)

theorem first?_putAll_empty (ps : List (κ × ν)) :
    (empty.putAll ps).first? = ps.head?.bind fun p => (lastPut ps p.1).map (p.1, ·) := by
  rw [first?_eq, keys_putAll_empty]
  simp only [get?_putAll_empty]
  cases ps with
  | nil => rfl
  | cons p rest => simp [List.eraseDups_cons]

/-- **An index built by a run of puts answers every read as the list of puts says.** -/
theorem followsPuts_putAll_empty (ps : List (κ × ν)) : (empty.putAll ps).FollowsPuts ps where
  keys := keys_putAll_empty ps
  values := by
    rw [← map_get?_keys (nodup_keys_putAll_empty ps)]
    exact List.map_congr_left fun k _ => (get?_putAll_empty ps k).symm
  get? := get?_putAll_empty ps
  put k v := by
    rw [put_replaced_iff_mem, keys_putAll_empty]
    simp only [List.mem_eraseDups]
  size := by rw [size_eq_length_keys, keys_putAll_empty]
  first? := first?_putAll_empty ps
  all _ _ _ yield := all_eq_forIn _ yield

end Index

namespace Group

variable {κ ν : Type} [DecidableEq κ]

omit [DecidableEq κ] in
theorem size_eq_length_keys (g : Group κ ν) : g.size = g.keys.length :=
  Index.size_eq_length_keys g.index

/-- A key that was added has the values added under it, in order; one never added has none. -/
theorem get?_addAll_empty (qs : List (κ × ν)) (k : κ) :
    (empty.addAll qs).get? k =
      if k ∈ qs.map (·.1) then some ((qs.filter (·.1 = k)).map (·.2)) else none := by
  have hnone := get?_addAll_empty_eq_none_iff qs k
  split
  · next hk =>
    -- the key was added, so it has a list, and that list is `get`'s
    have hsome : (empty.addAll qs).get? k ≠ none := by
      obtain ⟨p, hp, rfl⟩ := List.mem_map.mp hk
      exact fun h => hnone.mp h p hp rfl
    obtain ⟨vs, hvs⟩ := Option.ne_none_iff_exists'.mp hsome
    have hget := get_addAll empty qs k
    rw [get, hvs, Option.getD_some, get_empty, List.nil_append] at hget
    rw [hvs, hget]
  · next hk =>
    refine hnone.mpr fun p hp hpk => hk ?_
    exact List.mem_map.mpr ⟨p, hp, hpk⟩

/-- What a group built by the adds `qs` on an empty group answers, read off `qs` alone. -/
structure FollowsAdds (g : Group κ ν) (qs : List (κ × ν)) : Prop where
  /-- The keys are the keys added, each where it was first added. -/
  keys : g.keys = (qs.map (·.1)).eraseDups
  /-- A key's values are those added under it, in order; a key never added has none. -/
  get? : ∀ k, g.get? k =
    if k ∈ qs.map (·.1) then some ((qs.filter (·.1 = k)).map (·.2)) else none
  /-- The size is the number of distinct keys added. -/
  size : g.size = (qs.map (·.1)).eraseDups.length

/-- **A group built by a run of adds answers every read as the list of adds says.** -/
theorem followsAdds_addAll_empty (qs : List (κ × ν)) : (empty.addAll qs).FollowsAdds qs where
  keys := keys_addAll_empty qs
  get? := get?_addAll_empty qs
  size := by rw [size_eq_length_keys, keys_addAll_empty]

end Group

variable {κ ν : Type} [DecidableEq κ]

/-- **Indexes and groups follow their list of calls.** After any run of puts on an empty index,
its keys are the keys put in the order first put, each with the value it was last put with,
which is what a lookup, the value list, the size, the first entry and iteration report, and one
more put says whether its key was put before; after any run of adds on an empty group, its keys
are the keys added in the order first seen, each with the values added under it in order. -/
theorem ordered_runs_follow_calls (ps qs : List (κ × ν)) :
    (Index.empty.putAll ps).FollowsPuts ps ∧ (Group.empty.addAll qs).FollowsAdds qs :=
  ⟨Index.followsPuts_putAll_empty ps, Group.followsAdds_addAll_empty qs⟩

example : (Index.empty.putAll [("sword", 3), ("shield", 1), ("sword", 2)]).entries =
    [("sword", 2), ("shield", 1)] := by decide

end ConfigTables
