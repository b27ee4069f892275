import Mathlib
import ConfigTables.Proofs.PathKeys
/-!
# What writing, making directories and renaming leave in a file tree

Storing a table makes its directory, writes a temporary file and renames it over the table's
file. This module says what each of these leaves, in the terms a later walk reads: the keys on
the way to a path (`Tree.way`) and the node each one holds.

* `Tree.Sorted`: the keys are strictly ascending; putting and filtering keep it, so every tree an
  operation makes from a sorted one is sorted, and a key then holds one node.
* `find_write`, `find_mkdir`, `find_mkdirAll`: **what was written or made is found**. The walk
  to a path whose parent is ready reads directories up to the new key (`parentReady_dirs`).
* `find_mkdirAll_of_found`, `files_of_mkdirAll`: **making directories keeps what was there**:
  a directory is made only where nothing is found, so every path found before is found after,
  and no file appears (`mkdirAll_go_preserves` carries a fact of one `mkdir` through them all).
* `rename_file`: **renaming a file** to a free path or over a file leaves the file's data at the
  destination and every key at or below neither path as it was (`foldl_move` for a free
  destination, where the source's nodes are moved one by one).
-/

namespace ConfigTables.Files.Tree

/-! ## §1 — trees in key order -/

/-- A tree whose keys are strictly ascending, as every operation keeps them. -/
def Sorted (t : Tree) : Prop := (t.nodes.map (·.1)).Pairwise (· < ·)

theorem mem_put_go {k : String} {n : Node} {l : List (String × Node)} {x : String × Node}
    (h : x ∈ put.go k n l) : x = (k, n) ∨ x ∈ l := by
  induction l with
  | nil => simpa [put.go] using h
  | cons a rest ih =>
    unfold put.go at h
    split_ifs at h with h1 h2
    · rcases List.mem_cons.mp h with rfl | h
      · exact .inl rfl
      · exact .inr (List.mem_cons_of_mem _ h)
    · rcases List.mem_cons.mp h with rfl | h
      · exact .inl rfl
      · exact .inr h
    · rcases List.mem_cons.mp h with rfl | h
      · exact .inr List.mem_cons_self
      · rcases ih h with h | h
        · exact .inl h
        · exact .inr (List.mem_cons_of_mem _ h)

theorem mem_keys_put_go {k : String} {n : Node} {l : List (String × Node)} {x : String}
    (h : x ∈ (put.go k n l).map (·.1)) : x = k ∨ x ∈ l.map (·.1) := by
  obtain ⟨y, hy, rfl⟩ := List.mem_map.mp h
  rcases mem_put_go hy with rfl | hy
  · exact .inl rfl
  · exact .inr (List.mem_map_of_mem hy)

theorem sorted_put_go (k : String) (n : Node) {l : List (String × Node)}
    (hl : (l.map (·.1)).Pairwise (· < ·)) : ((put.go k n l).map (·.1)).Pairwise (· < ·) := by
  induction l with
  | nil => simp [put.go]
  | cons a rest ih =>
    obtain ⟨k0, m⟩ := a
    rw [List.map_cons, List.pairwise_cons] at hl
    unfold put.go
    split_ifs with h1 h2
    · subst h1
      simpa using hl
    · rw [List.map_cons, List.map_cons, List.pairwise_cons, List.pairwise_cons]
      refine ⟨fun x hx => ?_, hl.1, hl.2⟩
      rcases List.mem_cons.mp hx with rfl | hx
      · exact h2
      · exact lt_trans h2 (hl.1 x hx)
    · -- the key goes further down, past `k0`, which is below it
      have hlt : k0 < k := lt_of_le_of_ne (not_lt.mp h2) (Ne.symm h1)
      rw [List.map_cons, List.pairwise_cons]
      refine ⟨fun x hx => ?_, ih hl.2⟩
      rcases mem_keys_put_go hx with rfl | hx
      · exact hlt
      · exact hl.1 x hx

theorem Sorted.put {t : Tree} (h : t.Sorted) (k : String) (n : Node) : (t.put k n).Sorted :=
  sorted_put_go k n h

theorem Sorted.filter {t : Tree} (h : t.Sorted) (p : String × Node → Bool) :
    ({ t with nodes := t.nodes.filter p } : Tree).Sorted := by
  exact List.Pairwise.sublist ((List.filter_sublist).map _) h

/-- Putting twice at one key keeps the second node. -/
theorem put_go_put_go (k : String) (n m : Node) (l : List (String × Node)) :
    put.go k m (put.go k n l) = put.go k m l := by
  induction l with
  | nil => simp [put.go]
  | cons a rest ih =>
    obtain ⟨k0, x⟩ := a
    unfold put.go
    split_ifs with h1 h2 <;> simp [put.go, *]

/-- Dropping a key drops whatever was put there. -/
theorem filter_put_go (k : String) (n : Node) (l : List (String × Node)) :
    (put.go k n l).filter (·.1 ≠ k) = l.filter (·.1 ≠ k) := by
  induction l with
  | nil => simp [put.go]
  | cons a rest ih =>
    obtain ⟨k0, x⟩ := a
    unfold put.go
    split_ifs with h1 h2
    · subst h1; simp
    · simp
    · rw [List.filter_cons, List.filter_cons, ih]

/-! ## §2 — keys by their elements -/

theorem prefixes_append_singleton (front : List String) (last : String) :
    prefixes (front ++ [last]) = prefixes front ++ ["/".intercalate (front ++ [last])] := by
  unfold prefixes
  rw [List.length_append, List.length_singleton, List.range_succ, List.map_append,
    List.map_singleton, List.take_of_length_le (by simp)]
  congr 1
  apply List.map_congr_left
  intro i hi
  rw [List.mem_range] at hi
  rw [List.take_append_of_le_length (by omega)]

/-- The keys on the way through the first elements are the first keys. -/
theorem prefixes_take (es : List String) (j : Nat) :
    prefixes (es.take j) = (prefixes es).take j := by
  unfold prefixes
  rw [← List.map_take, List.take_range, List.length_take]
  refine List.map_congr_left fun i hi => ?_
  rw [List.mem_range] at hi
  rw [List.take_take]
  congr 2
  omega

/-- The keys on the way through plain elements are those elements' first parts. -/
theorem elements_of_mem_prefixes {es : List String} (h : ∀ e ∈ es, Path.Plain e) {k : String}
    (hk : k ∈ prefixes es) : ∃ j, 0 < j ∧ j ≤ es.length ∧ Path.elements k = es.take j := by
  obtain ⟨i, hi, rfl⟩ := List.mem_map.mp hk
  rw [List.mem_range] at hi
  refine ⟨i + 1, by omega, by omega, Path.elements_intercalate ?_ ?_⟩
  · intro e
    rw [List.take_eq_nil_iff] at e
    rcases e with e | e
    · omega
    · subst e; simp at hi
  · exact fun e he => (h e (List.mem_of_mem_take he)).2.2.2

/-- A key strictly below another has more elements. -/
theorem elements_of_below {s k : String} (hs : s ≠ ".") (h : below s k = true) :
    ∃ rest, Path.elements k = Path.elements s ++ Path.elements rest := by
  rw [below, if_neg hs, String.startsWith_string_iff] at h
  obtain ⟨u, hu⟩ := h
  refine ⟨String.ofList u, ?_⟩
  rw [← Path.elements_append_slash]
  congr 1
  apply String.toList_inj.mp
  simp [← hu]

theorem elements_ne_nil (s : String) : Path.elements s ≠ [] := by
  simp [Path.elements, List.splitOn_ne_nil]

/-! ## §3 — walks after a write -/

/-- The empty path names nothing when the working directory's absolute path starts at the
root. -/
theorem elementsOf_empty_path {t : Tree} (ht : t.RootSane) : t.elementsOf "" = none := by
  have hc : Path.clean "" = "." := rfl
  unfold elementsOf relative
  rcases ht with h | h
  · simp [h]
  · have h1 : Path.clean "" ≠ t.root := by
      rw [hc]; intro e; rw [← e] at h
      simp [String.startsWith_string_iff] at h
    have h2 : (Path.clean "").startsWith (t.root ++ "/") = false := by
      rw [hc, String.startsWith_string_eq_false_iff]
      intro hp
      have hR : t.root.toList ≠ [] := by
        intro e
        rw [String.startsWith_string_iff, e] at h
        simp at h
      have hl := hp.length_le
      have h0 := List.length_pos_iff.mpr hR
      simp only [String.toList_append, List.length_append,
        show (".".toList).length = 1 from rfl, show ("/".toList).length = 1 from rfl] at hl
      omega
    simp [h1, h2]

/-- No directory is made at the empty path. -/
theorem mkdirAll_empty_path {t : Tree} (ht : t.RootSane) : ∃ e, t.mkdirAll "" = .error e := by
  have hf : t.find "" = .error .noEntry := by simp [find, elementsOf_empty_path ht]
  have hp : t.parentReady "" = .error .noEntry := by
    simp [parentReady, elementsOf_empty_path ht]
  have hd : t.isDir "" = false := by simp [isDir, hf]
  have hm : ∃ e, t.mkdir "" = .error e := by simp [mkdir, hf, hp]
  obtain ⟨e, he⟩ := hm
  refine ⟨e, ?_⟩
  simp [mkdirAll, mkdirAll.go, hf, parentText, bind, Except.bind, pure, Except.pure, he, hd]

/-- **A ready parent is a walk of directories**: when the directory a path would be made in
exists, every key on the way to it holds a directory. -/
theorem parentReady_dirs {t : Tree} (ht : t.RootSane) {p : String}
    (hp : t.parentReady p = .ok ()) {front : List String} {last : String}
    (hes : t.elementsOf p = some (front ++ [last])) :
    ∀ k ∈ prefixes front, t.get? k = some .dir := by
  have hplain := elementsOf_plain t hes
  unfold parentReady at hp
  rw [hes] at hp
  split at hp
  · next h => simp at h
  · next h => simp at h
  · next es _ h =>
    obtain rfl : es = front ++ [last] := (Option.some.inj h).symm
    rw [List.dropLast_concat] at hp
    split at hp
    · simp [prefixes]
    · next hf =>
      split at hp
      · next hfind =>
        have hway : t.way ("/".intercalate front) = prefixes front := by
          rw [way, elementsOf_intercalate ht hf
            (fun e he => hplain e (List.mem_append_left _ he))]
          rfl
        rw [← hway]
        exact way_dirs hfind
      · cases hp
      · cases hp

/-- The key of a path inside the working directory is its elements joined by slashes. -/
theorem keyOf_eq {t : Tree} {p : String} {es : List String} (h : t.elementsOf p = some es)
    (hne : es ≠ []) : t.keyOf p = "/".intercalate es := by
  rw [elementsOf_eq h hne, intercalate_elements]

/-- The key of a path with plain elements is neither the working directory nor empty. -/
theorem keyOf_ne {t : Tree} {p : String} {es : List String} (h : t.elementsOf p = some es)
    (hne : es ≠ []) : t.keyOf p ≠ "." ∧ t.keyOf p ≠ "" := by
  have hplain := elementsOf_plain t h
  rw [keyOf_eq h hne]
  exact ⟨(Path.intercalate_ne_dot_slash fun e he =>
      ⟨(hplain e he).1, (hplain e he).2.1, (hplain e he).2.2.2⟩).1,
    (Path.intercalate_eq_empty fun e he => (hplain e he).1).not.mpr hne⟩

/-- The way to a path inside the working directory: the keys of its directories, then its own. -/
theorem way_eq {t : Tree} {p : String} {front : List String} {last : String}
    (h : t.elementsOf p = some (front ++ [last])) :
    t.way p = prefixes front ++ [t.keyOf p] := by
  rw [way, h, Option.map_some, Option.getD_some, prefixes_append_singleton,
    keyOf_eq h (by simp)]

/-- A key on the way to a directory is not the key of anything inside it. -/
theorem key_ne_of_mem_prefixes {t : Tree} {p : String} {front : List String} {last : String}
    (h : t.elementsOf p = some (front ++ [last])) {k : String} (hk : k ∈ prefixes front) :
    k ≠ t.keyOf p := by
  have hplain := elementsOf_plain t h
  obtain ⟨j, -, hj, hel⟩ := elements_of_mem_prefixes
    (fun e he => hplain e (List.mem_append_left _ he)) hk
  rintro rfl
  rw [elementsOf_eq h (by simp)] at hplain
  have := congrArg List.length hel
  rw [← elementsOf_eq h (by simp), List.length_take] at this
  simp at this
  omega

/-- **Putting a node where a path's parent is ready**: the walk to the path then ends at it. -/
theorem find_put_of_parentReady {t : Tree} (ht : t.RootSane) {p : String}
    (hp : t.parentReady p = .ok ()) {es : List String} (hes : t.elementsOf p = some es)
    (hne : es ≠ []) (n : Node) : (t.put (t.keyOf p) n).find p = .ok n := by
  obtain ⟨front, last, rfl⟩ : ∃ front last, es = front ++ [last] :=
    ⟨es.dropLast, es.getLast hne, (List.dropLast_append_getLast hne).symm⟩
  refine find_of_way (by rw [way_congr (put_root t _ n)]; exact way_eq hes) (fun k hk => ?_)
    (get?_put_self t n (keyOf_ne hes hne))
  rw [get?_put_ne t n (key_ne_of_mem_prefixes hes hk)]
  exact parentReady_dirs ht hp hes k hk

/-- A path whose elements are none names the working directory. -/
theorem find_of_elementsOf_nil {t : Tree} {p : String} (h : t.elementsOf p = some []) :
    t.find p = .ok .dir := by
  simp [find, h]

/-- **A write is read back**: after writing a file, the walk to it ends at the data written. -/
theorem find_write {t t' : Tree} (ht : t.RootSane) {p : String} {data : List UInt8}
    (h : t.write p data = .ok t') : t'.find p = .ok (.file data) := by
  unfold write at h
  split at h
  · cases h
  · next d hf =>
    cases h
    exact find_put_key hf _
  · next c hf =>
    split at h
    · next hp =>
      cases h
      -- the path names something other than the working directory, whose parent is ready
      cases hes : t.elementsOf p with
      | none => simp [parentReady, hes] at hp
      | some es =>
        have hne : es ≠ [] := by
          rintro rfl
          rw [find_of_elementsOf_nil hes] at hf
          cases hf
        exact find_put_of_parentReady ht hp hes hne _
    · cases h

theorem write_root {t t' : Tree} {p : String} {data : List UInt8} (h : t.write p data = .ok t') :
    t'.root = t.root := by
  rw [write_eq_put h]; rfl

theorem Sorted.write {t t' : Tree} (hs : t.Sorted) {p : String} {data : List UInt8}
    (h : t.write p data = .ok t') : t'.Sorted := by
  rw [write_eq_put h]; exact hs.put _ _

/-- Whether a write goes through does not depend on the data written. -/
theorem write_data {t t' : Tree} {p : String} {data : List UInt8} (h : t.write p data = .ok t')
    (data' : List UInt8) : t.write p data' = .ok (t.put (t.keyOf p) (.file data')) := by
  unfold write at h ⊢
  split at h
  · cases h
  · rfl
  · split at h
    · rfl
    · cases h

theorem put_put (t : Tree) (k : String) (n m : Node) : (t.put k n).put k m = t.put k m := by
  simp only [put, put_go_put_go]

/-- **Writing a file twice** leaves what one write of the second data leaves. -/
theorem write_write {t t₁ t₂ : Tree} {p : String} {data data' : List UInt8}
    (h₁ : t.write p data = .ok t₁) (h₂ : t₁.write p data' = .ok t₂) :
    t.write p data' = .ok t₂ := by
  rw [write_data h₁ data', write_eq_put h₂, write_eq_put h₁, keyOf_congr (put_root _ _ _),
    put_put]

/-- **Removing a file just written** drops its key from the tree it was written into. -/
theorem remove_written {t t₁ : Tree} (ht : t.RootSane) {p : String} {data : List UInt8}
    (h : t.write p data = .ok t₁) :
    (t₁.remove p).toOption.getD t₁ = { t with nodes := t.nodes.filter (·.1 ≠ t.keyOf p) } := by
  have hf : t₁.find p = .ok (.file data) := find_write ht h
  have hroot : t₁.root = t.root := write_root h
  have hrm : t₁.remove p = .ok { t₁ with nodes := t₁.nodes.filter (·.1 ≠ t₁.keyOf p) } := by
    simp [remove, hf]
  rw [hrm, keyOf_congr hroot]
  simp only [Except.toOption, Option.getD_some]
  rw [write_eq_put h]
  simp only [put, filter_put_go]

/-- A directory is made only where nothing is found, at a path with elements, by putting a
directory at its key. -/
theorem mkdir_spec {t t' : Tree} {p : String} (h : t.mkdir p = .ok t') :
    (∃ c, t.find p = .error c) ∧ (∃ es, t.elementsOf p = some es ∧ es ≠ []) ∧
      t' = t.put (t.keyOf p) .dir := by
  unfold mkdir at h
  split at h
  · cases h
  · next c hf =>
    split at h
    · split at h
      · next es hes => exact ⟨⟨c, hf⟩, ⟨_, hes, List.cons_ne_nil _ _⟩, by cases h; rfl⟩
      · cases h
    · cases h

theorem mkdir_eq_put {t t' : Tree} {p : String} (h : t.mkdir p = .ok t') :
    t' = t.put (t.keyOf p) .dir :=
  (mkdir_spec h).2.2

/-- **A directory made is found.** -/
theorem find_mkdir {t t' : Tree} (ht : t.RootSane) {p : String} (h : t.mkdir p = .ok t') :
    t'.find p = .ok .dir := by
  unfold mkdir at h
  split at h
  · cases h
  · split at h
    · next hp =>
      split at h
      · next hes => cases h; exact find_put_of_parentReady ht hp hes (List.cons_ne_nil _ _) _
      · cases h
    · cases h

/-- **What making one directory keeps, making a directory with its parents keeps**: the
directories are made one at a time, parents first. -/
theorem mkdirAll_go_preserves (P : Tree → Prop)
    (hstep : ∀ {t t' : Tree} {q : String}, P t → t.mkdir q = .ok t' → P t')
    {fuel : Nat} {t t' : Tree} {p : String} (h : mkdirAll.go fuel t p = .ok t') (ht : P t) :
    P t' := by
  induction fuel generalizing t p t' with
  | zero => cases h; exact ht
  | succ fuel ih =>
    unfold mkdirAll.go at h
    split at h
    · cases h; exact ht
    · cases h
    · simp only [bind, Except.bind] at h
      split at h
      · simp only [pure, Except.pure] at h
        split at h
        · next t2 hm => cases h; exact hstep ht hm
        · split at h
          · cases h; exact ht
          · cases h
      · split at h
        · cases h
        · next t1 h1 =>
          have ht1 := ih h1 ht
          split at h
          · next t2 hm => cases h; exact hstep ht1 hm
          · split at h
            · cases h; exact ht1
            · cases h

theorem mkdirAll_go_root {fuel : Nat} {t t' : Tree} {p : String}
    (h : mkdirAll.go fuel t p = .ok t') : t'.root = t.root ∧ (t.Sorted → t'.Sorted) := by
  refine mkdirAll_go_preserves (fun t' => t'.root = t.root ∧ (t.Sorted → t'.Sorted)) ?_ h
    ⟨rfl, id⟩
  intro t₁ t₂ q ⟨hroot, hsorted⟩ hm
  rw [mkdir_eq_put hm]
  exact ⟨hroot, fun hs => (hsorted hs).put _ _⟩

theorem find_of_isDir {t : Tree} {p : String} (h : t.isDir p = true) : t.find p = .ok .dir := by
  unfold isDir at h
  split at h
  · assumption
  · cases h

/-- **A directory made with its parents is found.** -/
theorem find_mkdirAll {t t' : Tree} (ht : t.RootSane) {p : String} (h : t.mkdirAll p = .ok t') :
    t'.find p = .ok .dir := by
  unfold mkdirAll mkdirAll.go at h
  split at h
  · next hf => cases h; exact hf
  · cases h
  · simp only [bind, Except.bind] at h
    split at h
    · simp only [pure, Except.pure] at h
      split at h
      · next t2 hm => cases h; exact find_mkdir ht hm
      · split at h
        · next hd => cases h; exact find_of_isDir hd
        · cases h
    · split at h
      · cases h
      · next t1 h1 =>
        have ht1 : t1.RootSane := by
          unfold RootSane; rw [(mkdirAll_go_root h1).1]; exact ht
        split at h
        · next t2 hm => cases h; exact find_mkdir ht1 hm
        · split at h
          · next hd => cases h; exact find_of_isDir hd
          · cases h

theorem mkdirAll_root {t t' : Tree} {p : String} (h : t.mkdirAll p = .ok t') :
    t'.root = t.root ∧ (t.Sorted → t'.Sorted) :=
  mkdirAll_go_root h

/-- The walk to a path with elements reads the keys of their first parts. -/
theorem find_eq_go {t : Tree} {p : String} {es : List String} (h : t.elementsOf p = some es)
    (hne : es ≠ []) : t.find p = find.go t (prefixes es) := by
  unfold find
  split
  · next h' => rw [h] at h'; cases h'
  · next h' => rw [h] at h'; cases h'; exact absurd rfl hne
  · next es' _ h' => rw [h] at h'; cases h'; rfl

/-- A walk that goes through goes through its first part too. -/
theorem find_go_prefix {t : Tree} {ks rest : List String} {n : Node}
    (h : find.go t (ks ++ rest) = .ok n) (hks : ks ≠ []) : ∃ m, find.go t ks = .ok m := by
  induction ks with
  | nil => exact absurd rfl hks
  | cons q ks ih =>
    cases ks with
    | nil =>
      cases rest with
      | nil => exact ⟨n, h⟩
      | cons r rs =>
        simp only [List.cons_append, List.nil_append, find.go] at h
        split at h
        · next hq => exact ⟨.dir, by simp [find.go, hq]⟩
        · cases h
        · cases h
    | cons k2 ks =>
      simp only [List.cons_append, find.go] at h
      split at h
      · next hq =>
        obtain ⟨m, hm⟩ := ih h (List.cons_ne_nil _ _)
        exact ⟨m, by simp only [find.go, hq]; exact hm⟩
      · cases h
      · cases h

/-- **Making a directory keeps what is found**: a directory is made only where nothing was found,
and every key on the way to a path that is found holds something. -/
theorem find_mkdir_of_found {t t' : Tree} {p q : String} {n : Node} (h : t.mkdir p = .ok t')
    (hq : t.find q = .ok n) : t'.find q = .ok n := by
  obtain ⟨⟨c, hp⟩, ⟨es, hes, hne⟩, rfl⟩ := mkdir_spec h
  rw [find_put_of_not_mem ?_ _, hq]
  intro hmem
  -- the directory's key on the way to `q` makes its elements the first ones of `q`
  obtain ⟨Q, hQ, hQne⟩ : ∃ Q, t.elementsOf q = some Q ∧ Q ≠ [] := by
    unfold way at hmem
    cases hQ : t.elementsOf q with
    | none => simp [hQ] at hmem
    | some Q =>
      refine ⟨Q, rfl, ?_⟩
      rintro rfl
      simp [hQ, prefixes] at hmem
  rw [way, hQ, Option.map_some, Option.getD_some] at hmem
  obtain ⟨j, hj, -, hel⟩ := elements_of_mem_prefixes (elementsOf_plain t hQ) hmem
  have hP : es = Q.take j := (elementsOf_eq hes hne).trans hel
  -- so the walk to `p` is the first part of the walk to `q`, which went through
  have hwalk : find.go t (prefixes Q) = .ok n := (find_eq_go hQ hQne).symm.trans hq
  rw [← List.take_append_drop j (prefixes Q)] at hwalk
  obtain ⟨m, hm⟩ := find_go_prefix hwalk (by
    rw [← prefixes_take, ← hP]
    intro e
    rw [prefixes] at e
    simp at e
    exact hne e)
  rw [find_eq_go hes hne, hP, prefixes_take, hm] at hp
  cases hp

/-- **Making a directory with its parents keeps what is found.** -/
theorem find_mkdirAll_of_found {t t' : Tree} {p q : String} {n : Node} (h : t.mkdirAll p = .ok t')
    (hq : t.find q = .ok n) : t'.find q = .ok n :=
  mkdirAll_go_preserves (fun t => t.find q = .ok n) (fun ht hm => find_mkdir_of_found hm ht) h hq

/-- **Making directories adds no file**: every file of the tree after was a file before. -/
theorem files_of_mkdirAll {t t' : Tree} {p : String} (h : t.mkdirAll p = .ok t') :
    ∀ k d, (k, Node.file d) ∈ t'.nodes → (k, Node.file d) ∈ t.nodes := by
  refine mkdirAll_go_preserves (fun t' => ∀ k d, (k, Node.file d) ∈ t'.nodes → (k, Node.file d) ∈ t.nodes)
    (fun ht hm => ?_) h (fun _ _ hk => hk)
  intro k d hk
  rw [mkdir_eq_put hm] at hk
  rcases mem_put_go hk with he | hk
  · cases he
  · exact ht k d hk

/-! ## §4 — renaming a file -/

section Puts

variable {f : Tree → String × Node → Tree} (hf : ∀ acc e, f acc e = acc.put e.1 e.2)
include hf

/-- Putting nodes at other keys leaves a key's node. -/
theorem get?_foldl_put_of_forall_ne {t : Tree} {q : String} {ms : List (String × Node)}
    (h : ∀ e ∈ ms, e.1 ≠ q) : (ms.foldl f t).get? q = t.get? q := by
  induction ms generalizing t with
  | nil => rfl
  | cons e rest ih =>
    rw [List.foldl_cons, ih (fun e he => h e (List.mem_cons_of_mem _ he)), hf,
      get?_put_ne t e.2 (Ne.symm (h e List.mem_cons_self))]

/-- The last node put at a key is the one it holds. -/
theorem get?_foldl_put_last {t : Tree} {q : String} {n : Node} (hq : q ≠ "." ∧ q ≠ "")
    {A B : List (String × Node)} (hB : ∀ e ∈ B, e.1 ≠ q) :
    ((A ++ (q, n) :: B).foldl f t).get? q = some n := by
  rw [List.foldl_append, List.foldl_cons, get?_foldl_put_of_forall_ne hf hB, hf]
  exact get?_put_self _ n hq

theorem Sorted.foldl_put {t : Tree} (hs : t.Sorted) (ms : List (String × Node)) :
    (ms.foldl f t).Sorted := by
  induction ms generalizing t with
  | nil => exact hs
  | cons e rest ih => rw [List.foldl_cons, hf]; exact ih (hs.put _ _)

theorem foldl_put_root {t : Tree} (ms : List (String × Node)) : (ms.foldl f t).root = t.root := by
  induction ms generalizing t with
  | nil => rfl
  | cons e rest ih => rw [List.foldl_cons, ih, hf]; rfl

end Puts

/-- Keeping every node at a key keeps what the key holds. -/
theorem get?_filter {t : Tree} {q : String} {p : String × Node → Bool}
    (h : ∀ e ∈ t.nodes, e.1 = q → p e = true) :
    ({ t with nodes := t.nodes.filter p } : Tree).get? q = t.get? q := by
  unfold get?
  split
  · rfl
  · congr 1
    rw [List.find?_filter]
    apply List.find?_congr
    intro x hx
    by_cases hxq : x.1 = q <;> simp [hxq, h x hx]

/-- Only a file's own key holds that file, and no file is at the working directory. -/
theorem key_ne_of_get?_file {t : Tree} {k : String} {d : List UInt8}
    (h : t.get? k = some (.file d)) : k ≠ "." ∧ k ≠ "" := by
  constructor <;> intro e <;> simp [get?, e] at h

theorem below_drop_ne {s k : String} (hs : s ≠ ".") (h : below s k = true) :
    (k.drop s.length).toString ≠ "" := by
  rw [below, if_neg hs, String.startsWith_string_iff] at h
  obtain ⟨u, hu⟩ := h
  intro e
  have h2 := congrArg String.toList e
  have hl : s.length = s.toList.length := rfl
  simp only [hl] at h2
  simp at h2
  have h3 := congrArg List.length hu
  simp [String.toList_append] at h3
  omega

/-- A key below the source of a rename moves below its destination. -/
theorem below_moved {s k : String} (hs : s ≠ ".") (h : below s k = true) (d : String) :
    below d (d ++ (k.drop s.length).toString) = true ∧ d ++ (k.drop s.length).toString ≠ d := by
  refine ⟨?_, fun e => below_drop_ne hs h (by simpa using congrArg String.length e)⟩
  rw [below, if_neg hs, String.startsWith_string_iff] at h
  obtain ⟨u, hu⟩ := h
  have hdrop : (k.drop s.length).toString = "/" ++ String.ofList u := by
    apply String.toList_inj.mp
    have hl : s.length = s.toList.length := rfl
    simp [hl, ← hu, String.toList_append]
  unfold below
  split
  · rfl
  · rw [hdrop, String.startsWith_string_iff, ← String.append_assoc]
    exact ⟨(String.ofList u).toList, by rw [← String.toList_append]⟩

/-- The source's one node, between nodes of other keys. -/
theorem split_at_key {t : Tree} (hs : t.Sorted) {k : String} {n : Node} (hk : k ≠ "." ∧ k ≠ "")
    (h : t.get? k = some n) :
    ∃ N1 N2, t.nodes = N1 ++ (k, n) :: N2 ∧ ∀ e ∈ N2, e.1 ≠ k := by
  unfold get? at h
  rw [if_neg (by simp [hk.1, hk.2])] at h
  obtain ⟨e, he, rfl⟩ := Option.map_eq_some_iff.mp h
  obtain ⟨hek, N1, N2, hN, -⟩ := List.find?_eq_some_iff_append.mp he
  simp only [decide_eq_true_eq] at hek
  obtain ⟨k', m⟩ := e
  simp only at hek
  subst hek
  refine ⟨N1, N2, hN, fun x hx => ?_⟩
  -- every key after the source's is larger than it
  have hsorted : ((N1 ++ (k', m) :: N2).map (·.1)).Pairwise (· < ·) := by
    rw [← hN]; exact hs
  rw [List.map_append, List.map_cons, List.pairwise_append, List.pairwise_cons] at hsorted
  exact ne_of_gt (hsorted.2.1.1 x.1 (List.mem_map_of_mem hx))

/-- **Moving the nodes at and below a key** to another key: the destination then holds the
source's node, and every key at or below neither keeps its node. -/
theorem foldl_move {t : Tree} (hs : t.Sorted) {sk dk : String} {n : Node}
    (hskey : t.get? sk = some n) (hsk : sk ≠ "." ∧ sk ≠ "") (hdk : dk ≠ "." ∧ dk ≠ "")
    {F : Tree → String × Node → Tree} (hF : ∀ acc e, F acc e = acc.put e.1 e.2)
    {P : String × Node → Bool} (hP : ∀ e, P e = (decide (e.1 ≠ sk) && !below sk e.1))
    {G : String × Node → Option (String × Node)}
    (hG : ∀ e, G e = if e.1 = sk then some (dk, e.2) else if below sk e.1 = true then
      some (dk ++ (e.1.drop sk.length).toString, e.2) else none) :
    ((t.nodes.filterMap G).foldl F { t with nodes := t.nodes.filter P }).get? dk = some n ∧
      ((t.nodes.filterMap G).foldl F { t with nodes := t.nodes.filter P }).root = t.root ∧
      ((t.nodes.filterMap G).foldl F { t with nodes := t.nodes.filter P }).Sorted ∧
      ∀ q, q ≠ sk → below sk q = false → q ≠ dk → below dk q = false →
        ((t.nodes.filterMap G).foldl F { t with nodes := t.nodes.filter P }).get? q = t.get? q := by
  -- every node moved lands at the destination or below it
  have hmoved : ∀ e ∈ t.nodes.filterMap G, e.1 = dk ∨ below dk e.1 = true := by
    intro e he
    obtain ⟨x, -, hx⟩ := List.mem_filterMap.mp he
    rw [hG] at hx
    split_ifs at hx with h1 h2
    · cases hx; exact .inl rfl
    · cases hx; exact .inr (below_moved hsk.1 h2 dk).1
  obtain ⟨N1, N2, hN, hN2⟩ := split_at_key hs hsk hskey
  refine ⟨?_, foldl_put_root hF _, (hs.filter P).foldl_put hF _, fun q h1 h2 h3 h4 => ?_⟩
  · -- the source's node is moved last among the nodes that land on the destination
    have hsplit : t.nodes.filterMap G = N1.filterMap G ++ (dk, n) :: N2.filterMap G := by
      rw [hN, List.filterMap_append, List.filterMap_cons, hG]
      simp
    rw [hsplit]
    refine get?_foldl_put_last hF hdk fun e he => ?_
    obtain ⟨x, hx, hxe⟩ := List.mem_filterMap.mp he
    rw [hG, if_neg (hN2 x hx)] at hxe
    split_ifs at hxe with h2
    cases hxe
    exact (below_moved hsk.1 h2 dk).2
  · rw [get?_foldl_put_of_forall_ne hF fun e he => ?_]
    · exact get?_filter fun e _ he => by rw [hP, he]; simp [h1, h2]
    · rintro rfl
      rcases hmoved e he with h | h
      · exact h3 h
      · rw [h] at h4; cases h4

/-- **Renaming a file** to a path that is free or a file: the walk to the destination then
ends at the file's data, what no key at or below either path holds is kept, and so is the key
order. The destination's directories must not lie below the source. -/
theorem rename_file {t t' : Tree} (hs : t.Sorted) (hr : t.RootSane) {src dst : String}
    {data : List UInt8} (hsrc : t.find src = .ok (.file data))
    (hbelow : ∀ es, t.elementsOf dst = some es → ∀ k ∈ prefixes es, below (t.keyOf src) k = false)
    (h : t.rename src dst = .ok t') :
    t'.find dst = .ok (.file data) ∧ t'.root = t.root ∧ t'.Sorted ∧
      ∀ q, q ≠ t.keyOf src → below (t.keyOf src) q = false → q ≠ t.keyOf dst →
        below (t.keyOf dst) q = false → t'.get? q = t.get? q := by
  obtain ⟨-, -, -, hskey⟩ := find_file hsrc
  have hsk := key_ne_of_get?_file hskey
  unfold rename at h
  rw [hsrc] at h
  simp only at h
  split at h
  · cases h
  · -- over a file: the source's key goes, the destination's holds the data
    next d hdst =>
    cases h
    obtain ⟨front, hway, hdirs, hdkey⟩ := find_file hdst
    have hdk := key_ne_of_get?_file hdkey
    have hframe : ∀ q, q ≠ t.keyOf src → q ≠ t.keyOf dst →
        (({ t with nodes := t.nodes.filter (·.1 ≠ t.keyOf src) } : Tree).put (t.keyOf dst)
          (.file data)).get? q = t.get? q := by
      intro q h1 h2
      rw [get?_put_ne _ _ h2, get?_erase_ne t h1]
    refine ⟨find_of_way (by rw [way_congr rfl]; exact hway) (fun k hk => ?_)
        (get?_put_self _ _ hdk), rfl, (hs.filter _).put _ _,
      fun q h1 _ h2 _ => hframe q h1 h2⟩
    -- a directory on the way is neither file
    have hk' := hdirs k hk
    rw [hframe k (fun e => by rw [e, hskey] at hk'; cases hk')
      (fun e => by rw [e, hdkey] at hk'; cases hk')]
    exact hk'
  · -- to a free path: the source's nodes move there
    next c hdst =>
    split at h
    · cases h
    · next hp =>
      cases h
      obtain ⟨es, hes, hne⟩ : ∃ es, t.elementsOf dst = some es ∧ es ≠ [] := by
        cases he : t.elementsOf dst with
        | none => simp [parentReady, he] at hp
        | some es =>
          refine ⟨es, rfl, ?_⟩
          rintro rfl
          rw [find_of_elementsOf_nil he] at hdst
          cases hdst
      obtain ⟨front, last, rfl⟩ : ∃ front last, es = front ++ [last] :=
        ⟨es.dropLast, es.getLast hne, (List.dropLast_append_getLast hne).symm⟩
      have hdirs := parentReady_dirs hr hp hes
      obtain ⟨hget, hroot, hsorted, hframe⟩ := foldl_move hs hskey hsk (keyOf_ne hes hne)
        (F := fun acc x => acc.put x.1 x.2) (fun _ _ => rfl)
        (fun _ => rfl) (fun _ => rfl)
      refine ⟨find_of_way (by rw [way_congr hroot]; exact way_eq hes) (fun k hk => ?_) hget,
        hroot, hsorted, hframe⟩
      -- a directory on the way is at or below neither path
      have hplain := elementsOf_plain t hes
      obtain ⟨j, -, hj, hel⟩ := elements_of_mem_prefixes
        (fun e he => hplain e (List.mem_append_left _ he)) hk
      have hk' := hdirs k hk
      rw [hframe k (fun e => by rw [e, hskey] at hk'; cases hk')
        (hbelow _ hes k (by rw [prefixes_append_singleton]; exact List.mem_append_left _ hk))
        (key_ne_of_mem_prefixes hes hk) ?_]
      · exact hk'
      · -- a key below the destination has more elements than any on its way
        cases hb : below (t.keyOf dst) k
        · rfl
        · obtain ⟨rest, hrest⟩ := elements_of_below (keyOf_ne hes hne).1 hb
          rw [← elementsOf_eq hes hne, hel] at hrest
          have hlen := congrArg List.length hrest
          have hrest0 : (Path.elements rest).length ≠ 0 := by simpa using elements_ne_nil rest
          simp only [List.length_take, List.length_append, List.length_singleton] at hlen
          omega

end ConfigTables.Files.Tree
