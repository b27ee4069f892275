import Mathlib
import ConfigTables.Files.Tree
/-!
# What a walk through the file tree sees

Finding a path walks the keys of its directories and then its own key (`Tree.way`), reading
each one's node and nothing else (`Tree.find_congr`). So a file put or a key dropped off that
way is not seen (`Tree.find_put_of_not_mem`, `Tree.find_erase_of_not_mem`), writing over a file
makes the walk end at the new contents (`Tree.find_put_key`), and a file's key lies on the way
to no directory (`Tree.keyOf_not_mem_way`). These are the frame facts an open journal's file
rests on while other files beside it come and go.
-/

namespace ConfigTables.Files.Tree

/-- The keys a walk to a path reads: those of its directories, then its own. -/
def way (t : Tree) (p : String) : List String := ((t.elementsOf p).map prefixes).getD []

theorem get?_put_ne (t : Tree) {k k' : String} (n : Node) (h : k' ≠ k) :
    (t.put k n).get? k' = t.get? k' := by
  unfold get? put
  split
  · rfl
  · congr 1
    simp only
    induction t.nodes with
    | nil => simp [put.go, Ne.symm h]
    | cons a rest ih =>
      obtain ⟨k0, m⟩ := a
      unfold put.go
      split_ifs with h1 h2
      · subst h1; simp [Ne.symm h]
      · simp [Ne.symm h]
      · simp only [List.find?_cons]
        split <;> simp_all

theorem get?_put_self (t : Tree) {k : String} (n : Node) (hk : k ≠ "." ∧ k ≠ "") :
    (t.put k n).get? k = some n := by
  have hkey : (k = "." || k = "") = false := by simp [hk.1, hk.2]
  unfold get? put
  rw [if_neg (by simp [hkey])]
  simp only
  induction t.nodes with
  | nil => simp [put.go]
  | cons a rest ih =>
    obtain ⟨k0, m⟩ := a
    unfold put.go
    split_ifs with h1 h2
    · simp
    · simp
    · simp [Ne.symm h1, ih]

theorem get?_erase_ne (t : Tree) {k k' : String} (h : k' ≠ k) :
    ({ t with nodes := t.nodes.filter (·.1 ≠ k) } : Tree).get? k' = t.get? k' := by
  unfold get?
  split
  · rfl
  · congr 1
    rw [List.find?_filter]
    congr 1
    funext x
    by_cases hx : x.1 = k' <;> simp [hx, h]

theorem find_go_congr {t t' : Tree} {ks : List String} (h : ∀ k ∈ ks, t'.get? k = t.get? k) :
    find.go t' ks = find.go t ks := by
  induction ks with
  | nil => rfl
  | cons q rest ih =>
    cases rest with
    | nil => simp [find.go, h q List.mem_cons_self]
    | cons r rs =>
      simp only [find.go, h q List.mem_cons_self]
      rw [ih (fun k hk => h k (List.mem_cons_of_mem _ hk))]

theorem elementsOf_congr {t t' : Tree} (h : t'.root = t.root) (p : String) :
    t'.elementsOf p = t.elementsOf p := by
  simp [elementsOf, relative, h]

theorem keyOf_congr {t t' : Tree} (h : t'.root = t.root) (p : String) :
    t'.keyOf p = t.keyOf p := by
  simp [keyOf, relative, h]

theorem way_congr {t t' : Tree} (h : t'.root = t.root) (p : String) : t'.way p = t.way p := by
  simp [way, elementsOf_congr h]

/-- **A walk reads only the keys on its way**: two trees with one root that agree there find
the same node. -/
theorem find_congr {t t' : Tree} {p : String} (hroot : t'.root = t.root)
    (h : ∀ k ∈ t.way p, t'.get? k = t.get? k) : t'.find p = t.find p := by
  unfold find
  rw [elementsOf_congr hroot]
  unfold way at h
  split
  · rfl
  · rfl
  · next es _ heq =>
    rw [heq] at h
    exact find_go_congr h

/-- A path's elements joined by slashes give the path back. -/
theorem intercalate_elements (c : String) : "/".intercalate (Path.elements c) = c := by
  apply String.toList_inj.mp
  rw [String.toList_intercalate, Path.elements, List.map_map]
  simp only [Function.comp_def, String.toList_ofList, List.map_id']
  exact List.intercalate_splitOn '/'

theorem find_go_dir {t : Tree} {ks : List String} (h : find.go t ks = .ok .dir) :
    ∀ k ∈ ks, t.get? k = some .dir := by
  induction ks with
  | nil => simp
  | cons q rest ih =>
    cases rest with
    | nil =>
      simp only [find.go] at h
      split at h
      · cases h; simpa
      · cases h
    | cons r rs =>
      simp only [find.go] at h
      split at h
      · next hq =>
        intro k hk
        rcases List.mem_cons.mp hk with rfl | hk
        · exact hq
        · exact ih h k hk
      · cases h
      · cases h

theorem find_go_file {t : Tree} {ks : List String} {d : List UInt8}
    (h : find.go t ks = .ok (.file d)) :
    ∃ front last, ks = front ++ [last] ∧ (∀ k ∈ front, t.get? k = some .dir) ∧
      t.get? last = some (.file d) := by
  induction ks with
  | nil => cases h
  | cons q rest ih =>
    cases rest with
    | nil =>
      simp only [find.go] at h
      split at h
      · cases h
        exact ⟨[], q, rfl, by simp, by assumption⟩
      · cases h
    | cons r rs =>
      simp only [find.go] at h
      split at h
      · next hq =>
        obtain ⟨front, last, hks, hfront, hlast⟩ := ih h
        exact ⟨q :: front, last, by rw [hks]; rfl, by
          intro k hk
          rcases List.mem_cons.mp hk with rfl | hk
          · exact hq
          · exact hfront k hk, hlast⟩
      · cases h
      · cases h

theorem find_go_last {t : Tree} {front : List String} {last : String} {n : Node}
    (h : ∀ k ∈ front, t.get? k = some .dir) (hlast : t.get? last = some n) :
    find.go t (front ++ [last]) = .ok n := by
  induction front with
  | nil => simp [find.go, hlast]
  | cons q rest ih =>
    rw [List.cons_append]
    cases hrest : rest ++ [last] with
    | nil => simp at hrest
    | cons r rs =>
      simp only [find.go, h q List.mem_cons_self]
      rw [← hrest]
      exact ih (fun k hk => h k (List.mem_cons_of_mem _ hk))

theorem elementsOf_eq {t : Tree} {p : String} {es : List String} (h : t.elementsOf p = some es)
    (hne : es ≠ []) : es = Path.elements (t.keyOf p) := by
  unfold elementsOf at h
  simp only at h
  split_ifs at h
  · cases h; exact absurd rfl hne
  · cases h; rfl

/-- The last key on the way to a path is the path's own key. -/
theorem prefixes_last {t : Tree} {p : String} {es : List String} (h : t.elementsOf p = some es)
    (hne : es ≠ []) : ∃ front, prefixes es = front ++ [t.keyOf p] := by
  obtain ⟨m, hm⟩ : ∃ m, es.length = m + 1 := ⟨es.length - 1, by
    have := List.length_pos_iff.mpr hne; omega⟩
  refine ⟨(List.range m).map (fun i => "/".intercalate (es.take (i + 1))), ?_⟩
  rw [prefixes, hm, List.range_succ, List.map_append, List.map_singleton,
    List.take_of_length_le (by omega), elementsOf_eq h hne, intercalate_elements]

/-- The walk to a file ends at its key. -/
theorem find_file {t : Tree} {p : String} {d : List UInt8} (hf : t.find p = .ok (.file d)) :
    ∃ front, t.way p = front ++ [t.keyOf p] ∧ (∀ k ∈ front, t.get? k = some .dir) ∧
      t.get? (t.keyOf p) = some (.file d) := by
  unfold find at hf
  unfold way
  split at hf
  · cases hf
  · cases hf
  · next es hne heq =>
    obtain ⟨front, last, hks, hfront, hlast⟩ := find_go_file hf
    obtain ⟨front', hpre⟩ := prefixes_last heq (by rintro rfl; exact hne rfl)
    rw [hpre] at hks
    obtain ⟨rfl, hlast'⟩ := List.append_inj' hks rfl
    rw [List.singleton_inj] at hlast'
    rw [← hlast'] at hlast
    exact ⟨front', by rw [heq]; exact hpre, hfront, hlast⟩

theorem find_of_way {t : Tree} {p : String} {front : List String} {k : String} {n : Node}
    (hway : t.way p = front ++ [k]) (hfront : ∀ k ∈ front, t.get? k = some .dir)
    (hk : t.get? k = some n) : t.find p = .ok n := by
  unfold way at hway
  unfold find
  split
  · next heq => simp [heq] at hway
  · next heq => simp [heq, prefixes] at hway
  · next es _ heq =>
    rw [heq, Option.map_some, Option.getD_some] at hway
    rw [hway]
    exact find_go_last hfront hk

@[simp] theorem put_root (t : Tree) (k : String) (n : Node) : (t.put k n).root = t.root := rfl

/-- **Writing over a file**: the walk to it then ends at the new node. -/
theorem find_put_key {t : Tree} {p : String} {d : List UInt8} (hf : t.find p = .ok (.file d))
    (n : Node) : (t.put (t.keyOf p) n).find p = .ok n := by
  obtain ⟨front, hway, hfront, hkey⟩ := find_file hf
  -- the file's key is no directory key, neither `.` nor any key before it on the way
  have hk : t.keyOf p ≠ "." ∧ t.keyOf p ≠ "" := by
    constructor <;> intro e <;> simp [get?, e] at hkey
  refine find_of_way (by rw [way_congr (put_root t _ n)]; exact hway) (fun k hk' => ?_)
    (get?_put_self t n hk)
  have hne : k ≠ t.keyOf p := by
    rintro rfl
    rw [hfront _ hk'] at hkey
    cases hkey
  rw [get?_put_ne t n hne]
  exact hfront k hk'

/-- **A change off the way is not seen**: putting a node at a key the walk to a path does not
read leaves what the walk finds. -/
theorem find_put_of_not_mem {t : Tree} {p k : String} (h : k ∉ t.way p) (n : Node) :
    (t.put k n).find p = t.find p :=
  find_congr (put_root t k n) fun _ hk' => get?_put_ne t n fun e => h (e ▸ hk')

theorem find_erase_of_not_mem {t : Tree} {p k : String} (h : k ∉ t.way p) :
    ({ t with nodes := t.nodes.filter (·.1 ≠ k) } : Tree).find p = t.find p :=
  find_congr rfl fun _ hk' => get?_erase_ne t fun e => h (e ▸ hk')

/-- Every key on the way to a directory holds a directory. -/
theorem way_dirs {t : Tree} {q : String} (h : t.find q = .ok .dir) :
    ∀ k ∈ t.way q, t.get? k = some .dir := by
  unfold find at h
  unfold way
  split at h
  · cases h
  · next heq => simp [heq, prefixes]
  · next es _ heq =>
    rw [heq]
    exact find_go_dir h

/-- A file's key is on the way to no directory. -/
theorem keyOf_not_mem_way {t : Tree} {p q : String} {d : List UInt8}
    (hp : t.find p = .ok (.file d)) (hq : t.find q = .ok .dir) : t.keyOf p ∉ t.way q := by
  obtain ⟨-, -, -, hkey⟩ := find_file hp
  intro hmem
  rw [way_dirs hq _ hmem] at hkey
  cases hkey

theorem write_of_file {t : Tree} {p : String} {d : List UInt8} (hf : t.find p = .ok (.file d))
    (data : List UInt8) : t.write p data = .ok (t.put (t.keyOf p) (.file data)) := by
  simp [write, hf]

/-- A write that goes through puts a file at the path's key. -/
theorem write_eq_put {t t' : Tree} {q : String} {data : List UInt8} (h : t.write q data = .ok t') :
    t' = t.put (t.keyOf q) (.file data) := by
  unfold write at h
  split at h
  · cases h
  · cases h; rfl
  · split at h
    · cases h; rfl
    · cases h

/-- A removal that goes through drops the path's key. -/
theorem remove_eq_erase {t t' : Tree} {q : String} (h : t.remove q = .ok t') :
    t' = { t with nodes := t.nodes.filter (·.1 ≠ t.keyOf q) } := by
  unfold remove at h
  split at h
  · cases h
  · cases h; rfl
  · simp only at h
    split_ifs at h
    cases h; rfl

theorem mkdirAll_of_dir {t : Tree} {p : String} (h : t.find p = .ok .dir) : t.mkdirAll p = .ok t := by
  simp [mkdirAll, mkdirAll.go, h]

/-- Writing a file off the way to a path, or failing to, leaves what the walk finds. -/
theorem find_write_apart {t : Tree} {p q : String} (h : t.keyOf q ∉ t.way p) (data : List UInt8) :
    ((t.write q data).toOption.getD t).find p = t.find p ∧
      ((t.write q data).toOption.getD t).root = t.root := by
  cases hw : t.write q data with
  | error e => exact ⟨rfl, rfl⟩
  | ok t' =>
    rw [write_eq_put hw]
    exact ⟨find_put_of_not_mem h _, rfl⟩

/-- Removing a path off the way to another, or failing to, leaves what the walk finds. -/
theorem find_remove_apart {t : Tree} {p q : String} (h : t.keyOf q ∉ t.way p) :
    ((t.remove q).toOption.getD t).find p = t.find p ∧
      ((t.remove q).toOption.getD t).root = t.root := by
  cases hr : t.remove q with
  | error e => exact ⟨rfl, rfl⟩
  | ok t' =>
    rw [remove_eq_erase hr]
    exact ⟨find_erase_of_not_mem h, rfl⟩

end ConfigTables.Files.Tree
