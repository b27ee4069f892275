import Mathlib
import ConfigTables.Config.File
/-!
# Pointing a table at a file, in the settings tree

`Config.setTablePath` edits the settings file as a YAML tree: it finds the root's `tables`
mapping, the table's entry in it and the entry's `path`, and sets or removes that path. It
finds each key by its text as written, the first pair with that text winning.

Read the same way, key by key with keys matched by their text (`Node.get?`, `Node.getPath?`),
the edit touches `tables.<table>.path` and nothing else (`setTablePath_points`): every path
that does not start at `tables` leads where it led before; under `tables`, now a mapping, every
other table's paths lead where they led; under the table's entry, every field but `path` leads
where it led; and `tables.<table>.path` is the plain scalar given, or nothing for an empty path,
the entry itself going once nothing else is left in it. A `tables` value or an entry that was
not a mapping counts as an empty one.

The settings reader compares keys without case (`Config.lowerEntries`), the edit does not: a
root key written `Tables`, or an entry written `heroconf` for `HeroConf`, is another key to the
edit, which leaves it as it was and adds its own beside it.

* §1 — lookups by key text, and what an appended pair answers (`Node.get?_append_pair`).
* §2 — one lemma for each edit of a mapping: `replaceValue`, `removeKey`, `setScalar`, and
  `mappingChild` (`Node.mappingChild_cases`).
* §3 — the edit of the settings tree, level by level (`EntryPointed`, `PointsTable`).
-/

namespace ConfigTables.Yaml.Node

/-! ## §1 — reading a mapping by key text -/

/-- The value of the first pair of a mapping whose key is written `key`. -/
def get? (n : Node) (key : String) : Option Node :=
  ((pairs n.content).find? fun p => p.1.value = key).map (·.2)

/-- The node a path of keys leads to, one mapping a key. -/
def getPath? (n : Node) : List String → Option Node
  | [] => some n
  | k :: ks => (n.get? k).bind (·.getPath? ks)

/-- The keys of a mapping, as written. -/
def keyTexts (n : Node) : List String := (pairs n.content).map (·.1.value)

/-- A mapping as a settings file that can be read holds it: keys and values alternate, and no
key is written twice. -/
structure Keyed (n : Node) : Prop where
  even : n.content.length % 2 = 0
  nodup : n.keyTexts.Nodup

/-- The mapping an edit finds under a key: the key's value when it is a mapping, else an empty
mapping. -/
def mappingUnder (n : Node) (key : String) : Node :=
  ((n.get? key).filter (·.kind = .mapping)).getD emptyMapping

theorem getPath?_cons (n : Node) (k : String) (ks : List String) :
    n.getPath? (k :: ks) = (n.get? k).bind (·.getPath? ks) := rfl

theorem getPath?_singleton (n : Node) (k : String) : n.getPath? [k] = n.get? k := by
  simp only [getPath?, Option.bind_fun_some]

theorem isSome_get?_iff (n : Node) (key : String) :
    (n.get? key).isSome ↔ (pairs n.content).any (fun p => p.1.value = key) := by
  rw [get?, Option.isSome_map, List.find?_isSome, List.any_eq_true]

/-- A list too short for a key and a value holds no pair. -/
theorem pairs_of_short {t : List Node} (ht : ∀ k v rest, t = k :: v :: rest → False) :
    pairs t = [] := by
  rcases t with _ | ⟨x, _ | ⟨y, rest⟩⟩
  · rfl
  · rfl
  · exact (ht x y rest rfl).elim

theorem get?_eq_none_iff (n : Node) (key : String) : n.get? key = none ↔ key ∉ n.keyTexts := by
  simp [get?, keyTexts, List.find?_eq_none]

theorem get?_of_content_eq_nil {n : Node} (h : n.content = []) (k : String) : n.get? k = none := by
  rw [get?, h]
  rfl

theorem pairs_append_pair {c : List Node} (h : c.length % 2 = 0) (a b : Node) :
    pairs (c ++ [a, b]) = pairs c ++ [(a, b)] := by
  fun_induction pairs c with
  | case1 k v rest ih =>
    simp only [List.length_cons] at h
    rw [List.cons_append, List.cons_append, pairs, ih (by omega)]
    rfl
  | case2 t ht =>
    rcases t with _ | ⟨x, _ | ⟨y, rest⟩⟩
    · rfl
    · simp at h
    · exact (ht x y rest rfl).elim

/-- A pair appended to a mapping answers only a key that no earlier pair has. -/
theorem get?_append_pair {n : Node} (h : n.content.length % 2 = 0) (a b : Node) (k : String) :
    ({ n with content := n.content ++ [a, b] } : Node).get? k =
      (n.get? k).or (if a.value = k then some b else none) := by
  rw [get?, get?, pairs_append_pair h, List.find?_append, Option.map_or]
  congr 1
  by_cases ha : a.value = k <;> simp [ha]

/-! ## §2 — the edits of a mapping -/

theorem find?_replaceValue_go_of_ne {key k : String} (hk : k ≠ key) (child : Node)
    (c : List Node) :
    (pairs (replaceValue.go key child c)).find? (fun p => p.1.value = k) =
      (pairs c).find? (fun p => p.1.value = k) := by
  fun_induction replaceValue.go key child c with
  | case1 kn v rest hkey =>
    -- the replaced pair's key is `key`, so `k` is looked up further on
    have hkn : ¬ kn.value = k := hkey ▸ Ne.symm hk
    simp [pairs, hkn]
  | case2 kn v rest _ ih => simp only [pairs, List.find?_cons, ih]
  | case3 => rfl

theorem find?_replaceValue_go_self (key : String) (child : Node) (c : List Node) :
    ((pairs (replaceValue.go key child c)).find? (fun p => p.1.value = key)).map (·.2) =
      ((pairs c).find? (fun p => p.1.value = key)).map fun _ => child := by
  fun_induction replaceValue.go key child c with
  | case1 kn v rest hkey => simp [pairs, hkey]
  | case2 kn v rest hkey ih => simp [pairs, hkey, ih]
  | case3 t ht =>
    rw [pairs_of_short ht]
    rfl

theorem keyTexts_replaceValue_go (key : String) (child : Node) (c : List Node) :
    (pairs (replaceValue.go key child c)).map (·.1.value) = (pairs c).map (·.1.value) := by
  fun_induction replaceValue.go key child c with
  | case1 => simp [pairs]
  | case2 kn v rest _ ih => simp only [pairs, List.map_cons, ih]
  | case3 => rfl

theorem length_replaceValue_go (key : String) (child : Node) (c : List Node) :
    (replaceValue.go key child c).length = c.length := by
  fun_induction replaceValue.go key child c with
  | case1 => rfl
  | case2 kn v rest _ ih => simp [ih]
  | case3 => rfl

theorem get?_replaceValue_of_ne (n : Node) {key k : String} (hk : k ≠ key) (child : Node) :
    (n.replaceValue key child).get? k = n.get? k := by
  simp only [get?, replaceValue, find?_replaceValue_go_of_ne hk]

theorem get?_replaceValue_self (n : Node) (key : String) (child : Node) :
    (n.replaceValue key child).get? key = (n.get? key).map fun _ => child := by
  rw [get?, get?, Option.map_map]
  exact find?_replaceValue_go_self key child n.content

theorem Keyed.replaceValue {n : Node} (h : n.Keyed) (key : String) (child : Node) :
    (n.replaceValue key child).Keyed := by
  have hkeys : (n.replaceValue key child).keyTexts = n.keyTexts :=
    keyTexts_replaceValue_go key child n.content
  exact ⟨(length_replaceValue_go key child n.content).symm ▸ h.even, hkeys ▸ h.nodup⟩

theorem find?_removeKey_go_of_ne {key k : String} (hk : k ≠ key) (c : List Node) :
    (pairs (removeKey.go key c)).find? (fun p => p.1.value = k) =
      (pairs c).find? (fun p => p.1.value = k) := by
  fun_induction removeKey.go key c with
  | case1 kn v rest hkey =>
    have hkn : ¬ kn.value = k := hkey ▸ Ne.symm hk
    simp [pairs, hkn]
  | case2 kn v rest _ ih => simp only [pairs, List.find?_cons, ih]
  | case3 => rfl

theorem find?_removeKey_go_self (key : String) {c : List Node}
    (hnd : ((pairs c).map (·.1.value)).Nodup) :
    (pairs (removeKey.go key c)).find? (fun p => p.1.value = key) = none := by
  fun_induction removeKey.go key c with
  | case1 kn v rest hkey =>
    -- the removed pair held `key`, and the keys after it are other keys
    simp only [pairs, List.map_cons, List.nodup_cons] at hnd
    rw [List.find?_eq_none]
    intro p hp hpk
    refine hnd.1 (List.mem_map.mpr ⟨p, hp, ?_⟩)
    rw [hkey]
    simpa using hpk
  | case2 kn v rest hkey ih =>
    simp only [pairs, List.map_cons, List.nodup_cons] at hnd
    simp [pairs, hkey, ih hnd.2]
  | case3 t ht => rw [pairs_of_short ht]; rfl

theorem get?_removeKey_of_ne (n : Node) {key k : String} (hk : k ≠ key) :
    (n.removeKey key).get? k = n.get? k := by
  simp only [get?, removeKey, find?_removeKey_go_of_ne hk]

theorem get?_removeKey_self {n : Node} (h : n.keyTexts.Nodup) (key : String) :
    (n.removeKey key).get? key = none := by
  simp only [get?, removeKey, find?_removeKey_go_self key h, Option.map_none]

theorem get?_setScalar_self {n : Node} (h : n.content.length % 2 = 0) (key value : String) :
    (n.setScalar key value).get? key = some (scalar value) := by
  unfold setScalar
  split
  · next hany =>
    obtain ⟨v, hv⟩ := Option.isSome_iff_exists.mp ((isSome_get?_iff n key).mpr hany)
    rw [get?_replaceValue_self, hv]
    rfl
  · next hany =>
    have hnone : n.get? key = none := by
      rw [← Option.not_isSome_iff_eq_none, isSome_get?_iff]
      exact hany
    rw [get?_append_pair h, hnone, if_pos (show (scalar key).value = key from rfl)]
    rfl

theorem get?_setScalar_of_ne {n : Node} (h : n.content.length % 2 = 0) {key k : String}
    (hk : k ≠ key) (value : String) : (n.setScalar key value).get? k = n.get? k := by
  unfold setScalar
  split
  · exact get?_replaceValue_of_ne n hk _
  · rw [get?_append_pair h]
    have hkey : (scalar key).value ≠ k := Ne.symm hk
    simp [hkey]

theorem mappingUnder_of_get? {n : Node} {key : String} {v : Node} (h : n.get? key = some v) :
    n.mappingUnder key = if v.kind = .mapping then v else emptyMapping := by
  by_cases hm : v.kind = .mapping <;> simp [mappingUnder, h, hm, Option.filter_some]

theorem mappingUnder_of_get?_none {n : Node} {key : String} (h : n.get? key = none) :
    n.mappingUnder key = emptyMapping := by
  simp [mappingUnder, h]

theorem kind_mappingUnder (n : Node) (key : String) : (n.mappingUnder key).kind = .mapping := by
  rcases h : n.get? key with _ | v
  · rw [mappingUnder_of_get?_none h]
    rfl
  · rw [mappingUnder_of_get? h]
    split_ifs with hm
    · exact hm
    · rfl

/-- What `mappingChild` does: it hands back the mapping under the key, and leaves the parent as
it is when that mapping is the key's value, puts it in place of a value that is not a mapping,
or appends it under the key when no pair has the key. -/
theorem mappingChild_cases (n : Node) (key : String) :
    (n.mappingChild key).1 = n.mappingUnder key ∧
    ((n.get? key = some (n.mappingUnder key) ∧ (n.mappingChild key).2 = n) ∨
     ((n.get? key).isSome ∧ (n.mappingChild key).2 = n.replaceValue key (n.mappingUnder key)) ∨
     (n.get? key = none ∧
       (n.mappingChild key).2 = { n with content := n.content ++ [scalar key, n.mappingUnder key] })) := by
  unfold mappingChild
  split
  · next fst v heq =>
    have hv : n.get? key = some v := congrArg (Option.map Prod.snd) heq
    by_cases hm : v.kind = .mapping
    · have hu : n.mappingUnder key = v := by rw [mappingUnder_of_get? hv, if_pos hm]
      rw [if_pos hm, hu]
      exact ⟨rfl, .inl ⟨hv, rfl⟩⟩
    · have hu : n.mappingUnder key = emptyMapping := by rw [mappingUnder_of_get? hv, if_neg hm]
      rw [if_neg hm, hu]
      exact ⟨rfl, .inr (.inl ⟨by simp [hv], rfl⟩)⟩
  · next heq =>
    have hv : n.get? key = none := congrArg (Option.map Prod.snd) heq
    have hu : n.mappingUnder key = emptyMapping := mappingUnder_of_get?_none hv
    rw [hu]
    exact ⟨rfl, .inr (.inr ⟨hv, rfl⟩)⟩


@[simp] theorem kind_replaceValue (n : Node) (key : String) (child : Node) :
    (n.replaceValue key child).kind = n.kind := rfl

@[simp] theorem kind_removeKey (n : Node) (key : String) : (n.removeKey key).kind = n.kind := rfl

@[simp] theorem kind_setScalar (n : Node) (key value : String) :
    (n.setScalar key value).kind = n.kind := by
  unfold setScalar
  split <;> rfl

theorem get?_mappingChild_self {n : Node} (h : n.content.length % 2 = 0) (key : String) :
    (n.mappingChild key).2.get? key = some (n.mappingUnder key) := by
  obtain ⟨-, ⟨hv, hc⟩ | ⟨hs, hc⟩ | ⟨hv, hc⟩⟩ := mappingChild_cases n key
  · rw [hc, hv]
  · obtain ⟨v, hv⟩ := Option.isSome_iff_exists.mp hs
    rw [hc, get?_replaceValue_self, hv]
    rfl
  · rw [hc, get?_append_pair h, hv, if_pos (show (scalar key).value = key from rfl)]
    rfl

theorem get?_mappingChild_of_ne {n : Node} (h : n.content.length % 2 = 0) {key k : String}
    (hk : k ≠ key) : (n.mappingChild key).2.get? k = n.get? k := by
  obtain ⟨-, ⟨-, hc⟩ | ⟨-, hc⟩ | ⟨-, hc⟩⟩ := mappingChild_cases n key
  · rw [hc]
  · rw [hc, get?_replaceValue_of_ne n hk]
  · rw [hc, get?_append_pair h, if_neg (show (scalar key).value ≠ k from Ne.symm hk),
      Option.or_none]

theorem kind_mappingChild (n : Node) (key : String) : (n.mappingChild key).2.kind = n.kind := by
  obtain ⟨-, ⟨-, hc⟩ | ⟨-, hc⟩ | ⟨-, hc⟩⟩ := mappingChild_cases n key
  · rw [hc]
  · rw [hc, kind_replaceValue]
  · rw [hc]

theorem Keyed.mappingChild {n : Node} (h : n.Keyed) (key : String) :
    (n.mappingChild key).2.Keyed := by
  obtain ⟨-, ⟨-, hc⟩ | ⟨-, hc⟩ | ⟨hv, hc⟩⟩ := mappingChild_cases n key
  · rw [hc]
    exact h
  · rw [hc]
    exact h.replaceValue key _
  · -- the appended key is a new one
    have hnew : key ∉ n.keyTexts := (get?_eq_none_iff n key).mp hv
    have hkeys : ({ n with content := n.content ++ [scalar key, n.mappingUnder key] } : Node).keyTexts =
        n.keyTexts ++ [key] := by
      simp only [keyTexts, pairs_append_pair h.even, List.map_append, List.map_cons, List.map_nil]
      rfl
    have heven := h.even
    rw [hc]
    refine ⟨?_, ?_⟩
    · simp only [List.length_append, List.length_cons, List.length_nil]
      omega
    · rw [hkeys, List.nodup_append]
      refine ⟨h.nodup, List.nodup_singleton key, fun a ha b hb hab => hnew ?_⟩
      rw [← List.mem_singleton.mp hb, ← hab]
      exact ha

/-- Putting `x` under a key of the mapping `mappingChild` hands back: the key now reads `x`, every
other key as before. -/
theorem get?_replaceValue_mappingChild {n : Node} (h : n.content.length % 2 = 0) (key : String)
    (x : Node) (k : String) :
    ((n.mappingChild key).2.replaceValue key x).get? k = if k = key then some x else n.get? k := by
  by_cases hk : k = key
  · subst hk
    rw [if_pos rfl, get?_replaceValue_self, get?_mappingChild_self h]
    rfl
  · rw [if_neg hk, get?_replaceValue_of_ne _ hk, get?_mappingChild_of_ne h hk]

/-- Below the key, the mapping put in place is what the paths read. -/
theorem getPath?_replaceValue_mappingChild {n : Node} (h : n.content.length % 2 = 0)
    (key : String) (x : Node) (ks : List String) :
    ((n.mappingChild key).2.replaceValue key x).getPath? (key :: ks) = x.getPath? ks := by
  rw [getPath?_cons, get?_replaceValue_mappingChild h, if_pos rfl, Option.bind_some]

/-- Removing the key `mappingChild` made sure of: the key reads nothing, every other key as
before. -/
theorem get?_removeKey_mappingChild {n : Node} (h : n.Keyed) (key k : String) :
    ((n.mappingChild key).2.removeKey key).get? k = if k = key then none else n.get? k := by
  by_cases hk : k = key
  · subst hk
    rw [if_pos rfl, get?_removeKey_self (h.mappingChild k).nodup]
  · rw [if_neg hk, get?_removeKey_of_ne _ hk, get?_mappingChild_of_ne h.even hk]

end ConfigTables.Yaml.Node

namespace ConfigTables.Config

open Yaml Yaml.Node

/-! ## §3 — the edit of the settings tree -/

/-- The table's entry after the edit, `none` once it is removed: a mapping in which every field
of the old entry `entry` but `path` reads as before, and `path` reads the plain scalar given, or
nothing for an empty path. -/
structure EntryPointed (entry : Node) (path : String) (e? : Option Node) : Prop where
  mapping : ∀ e, e? = some e → e.kind = .mapping
  others : ∀ k, k ≠ "path" → e?.bind (·.get? k) = entry.get? k
  path_eq : e?.bind (·.get? "path") = if path = "" then none else some (scalar path)

theorem entryPointed_setScalar {entry : Node} (hk : entry.kind = .mapping)
    (he : entry.content.length % 2 = 0) {path : String} (hp : path ≠ "") :
    EntryPointed entry path (some (entry.setScalar "path" path)) where
  mapping e h := by
    cases h
    rw [kind_setScalar, hk]
  others k hk' := get?_setScalar_of_ne he hk' path
  path_eq := by
    rw [if_neg hp]
    exact get?_setScalar_self he "path" path

theorem entryPointed_removeKey {entry : Node} (hk : entry.kind = .mapping)
    (hnd : entry.keyTexts.Nodup) : EntryPointed entry "" (some (entry.removeKey "path")) where
  mapping e h := by
    cases h
    exact hk
  others k hk' := get?_removeKey_of_ne entry hk'
  path_eq := by
    rw [if_pos rfl]
    exact get?_removeKey_self hnd "path"

theorem entryPointed_none {entry : Node} (h : (entry.removeKey "path").content = []) :
    EntryPointed entry "" none where
  mapping e h := by cases h
  others k hk' := ((get?_removeKey_of_ne entry hk').symm.trans (get?_of_content_eq_nil h k)).symm
  path_eq := by
    rw [if_pos rfl]
    rfl

/-- What pointing table `table` at `path` leaves of the settings tree `root` in `root'`, read path
by path with keys matched by their text: every path that does not start at `tables` leads where
it led; `tables` is a mapping, in which every other table's paths lead where they led under the
old `tables` mapping; the table's entry, if there is one, is a mapping in which every field but
`path` leads where it led in the old entry; and `tables.<table>.path` is the plain scalar `path`,
or nothing when `path` is empty. A `tables` value or entry that was not a mapping counts as an
empty one. -/
structure PointsTable (root : Node) (table path : String) (root' : Node) : Prop where
  outside : ∀ k ks, k ≠ "tables" → root'.getPath? (k :: ks) = root.getPath? (k :: ks)
  tables_mapping : ∃ t, root'.getPath? ["tables"] = some t ∧ t.kind = .mapping
  other_tables : ∀ k ks, k ≠ table →
    root'.getPath? ("tables" :: k :: ks) = (root.mappingUnder "tables").getPath? (k :: ks)
  entry_mapping : ∀ e, root'.getPath? ["tables", table] = some e → e.kind = .mapping
  other_fields : ∀ k ks, k ≠ "path" →
    root'.getPath? ("tables" :: table :: k :: ks) =
      ((root.mappingUnder "tables").mappingUnder table).getPath? (k :: ks)
  path_eq : root'.getPath? ["tables", table, "path"] =
    if path = "" then none else some (scalar path)

/-- The root level of the edit: the `tables` mapping put in place under `tables` points the table
when it keeps the other tables and holds the entry pointed. -/
theorem pointsTable_of_tables {root : Node} {table path : String}
    (hr : root.content.length % 2 = 0) {t' : Node} (hkind : t'.kind = .mapping)
    (hothers : ∀ k, k ≠ table → t'.get? k = (root.mappingUnder "tables").get? k)
    (hentry : EntryPointed ((root.mappingUnder "tables").mappingUnder table) path (t'.get? table)) :
    PointsTable root table path ((root.mappingChild "tables").2.replaceValue "tables" t') where
  outside k ks hk := by
    rw [getPath?_cons, getPath?_cons, get?_replaceValue_mappingChild hr, if_neg hk]
  tables_mapping := ⟨t', getPath?_replaceValue_mappingChild hr "tables" t' [], hkind⟩
  other_tables k ks hk := by
    rw [getPath?_replaceValue_mappingChild hr, getPath?_cons, getPath?_cons, hothers k hk]
  entry_mapping e h := by
    rw [getPath?_replaceValue_mappingChild hr, getPath?_singleton] at h
    exact hentry.mapping e h
  other_fields k ks hk := by
    -- the entry's field `k`, then the rest of the path below it
    rw [getPath?_replaceValue_mappingChild hr, getPath?_cons]
    simp only [getPath?_cons]
    rw [← Option.bind_assoc, hentry.others k hk]
  path_eq := by
    rw [getPath?_replaceValue_mappingChild hr, getPath?_cons]
    simp only [getPath?_singleton]
    exact hentry.path_eq

/-- **Pointing a table at a file edits `tables.<table>.path` and nothing else**, for every settings
tree whose root alternates keys and values and whose `tables` mapping and table entry are
readable mappings (`Node.Keyed`), and every table and path, with keys matched by their text
(`PointsTable`). -/
theorem setTablePath_points {root : Node} {table path : String}
    (hr : root.content.length % 2 = 0)
    (ht : (root.mappingUnder "tables").Keyed)
    (he : ((root.mappingUnder "tables").mappingUnder table).Keyed) :
    PointsTable root table path (setTablePath root table path) := by
  unfold setTablePath
  dsimp only
  rw [(mappingChild_cases root "tables").1, (mappingChild_cases _ table).1]
  have hkind : ((root.mappingUnder "tables").mappingChild table).2.kind = .mapping := by
    rw [kind_mappingChild, kind_mappingUnder]
  split_ifs with hp hempty
  · -- an empty path, and nothing else in the entry: the entry goes
    subst hp
    refine pointsTable_of_tables hr hkind (fun k hk => ?_) ?_
    · rw [get?_removeKey_mappingChild ht, if_neg hk]
    · rw [get?_removeKey_mappingChild ht, if_pos rfl]
      exact entryPointed_none (List.isEmpty_iff.mp hempty)
  · -- an empty path: the entry loses its path
    subst hp
    refine pointsTable_of_tables hr hkind (fun k hk => ?_) ?_
    · rw [get?_replaceValue_mappingChild ht.even, if_neg hk]
    · rw [get?_replaceValue_mappingChild ht.even, if_pos rfl]
      exact entryPointed_removeKey (kind_mappingUnder _ _) he.nodup
  · -- a path: the entry's path is set
    refine pointsTable_of_tables hr hkind (fun k hk => ?_) ?_
    · rw [get?_replaceValue_mappingChild ht.even, if_neg hk]
    · rw [get?_replaceValue_mappingChild ht.even, if_pos rfl]
      exact entryPointed_setScalar (kind_mappingUnder _ _) he.even hp

/-- Under a root key written `Tables` the edit finds no `tables` mapping and no `HeroConf` entry,
both empty to it, and points `tables.HeroConf.path` at the new file. -/
theorem capitalised_tables_pin_points :
    let root : Node := { emptyMapping with content := [scalar "Tables",
      { emptyMapping with content := [scalar "HeroConf",
        { emptyMapping with content := [scalar "path", scalar "a.json"] }] }] }
    root.content.length % 2 = 0 ∧ (root.mappingUnder "tables").Keyed ∧
      ((root.mappingUnder "tables").mappingUnder "HeroConf").Keyed ∧
      PointsTable root "HeroConf" "b.json" (setTablePath root "HeroConf" "b.json") := by
  intro root
  have hr : root.content.length % 2 = 0 := by decide
  have ht : (root.mappingUnder "tables").Keyed := ⟨rfl, by decide⟩
  have he : ((root.mappingUnder "tables").mappingUnder "HeroConf").Keyed := ⟨rfl, by decide⟩
  exact ⟨hr, ht, he, setTablePath_points hr ht he⟩

/-- A root key written `Tables` is another key to the edit: pointing `HeroConf` at a new file
leaves the entry under `Tables` as it was and writes the path under a new `tables` key. -/
example :
    let root : Node := { emptyMapping with content := [scalar "Tables",
      { emptyMapping with content := [scalar "HeroConf",
        { emptyMapping with content := [scalar "path", scalar "a.json"] }] }] }
    (setTablePath root "HeroConf" "b.json").getPath? ["Tables", "HeroConf", "path"] =
      some (scalar "a.json") ∧
    (setTablePath root "HeroConf" "b.json").getPath? ["tables", "HeroConf", "path"] =
      some (scalar "b.json") :=
  ⟨rfl, rfl⟩

end ConfigTables.Config
