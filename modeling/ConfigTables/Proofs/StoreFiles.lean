import Mathlib
import ConfigTables.Hub.Query
import ConfigTables.Proofs.TreeWrites
/-!
# What storing a hub writes

Storing a hub writes each table to `<dir>/<name><ext>`: the format's codec writes the table's
payload, the directory is made with its parents, and the bytes replace the table's file through
a temporary file `.<name>.tmp.*` in the directory, made empty, written, closed and renamed to the
table's file. This module says what a store leaves in the tree.

* `way_apart`: two files side by side in one directory have keys apart: on the way to one, no
  key is the other's or lies below it.
* `replaceFile_ok`, `replaceFile_error`: **replacing a file** went through every step, or left
  the tree as it was but for the temporary name, which a failure after making it removes again.
* `storeMessage_spec`: **one store** leaves the codec's bytes in the table's file, the directory
  a directory, and every other file of the directory as it was, except one at the temporary name.
* `Hub.store_writes`: **a store of every table**, on a sorted tree, that reports no fault leaves
  each table's file holding what the codec wrote of the table's payload, for table names whose
  files can sit side by side (`Storable`, which the built-in tables' names are).
-/

namespace ConfigTables.Files.Tree

/-! ## §1 — files side by side -/

/-- Nonempty lists of plain elements are told apart by their keys. -/
theorem intercalate_inj {K L : List String} (hK : K ≠ []) (hL : L ≠ [])
    (hKp : ∀ e ∈ K, Path.Plain e) (hLp : ∀ e ∈ L, Path.Plain e)
    (h : "/".intercalate K = "/".intercalate L) : K = L := by
  rw [← Path.elements_intercalate hK fun e he => (hKp e he).2.2.2,
    ← Path.elements_intercalate hL fun e he => (hLp e he).2.2.2, h]

/-- A key lies below another only with more elements. -/
theorem length_lt_of_below {K L : List String} (hK : K ≠ []) (hL : L ≠ [])
    (hKp : ∀ e ∈ K, Path.Plain e) (hLp : ∀ e ∈ L, Path.Plain e)
    (h : below ("/".intercalate L) ("/".intercalate K) = true) : L.length < K.length := by
  have hdot : "/".intercalate L ≠ "." :=
    (Path.intercalate_ne_dot_slash fun e he => ⟨(hLp e he).1, (hLp e he).2.1, (hLp e he).2.2.2⟩).1
  obtain ⟨rest, hrest⟩ := elements_of_below hdot h
  rw [Path.elements_intercalate hK fun e he => (hKp e he).2.2.2,
    Path.elements_intercalate hL fun e he => (hLp e he).2.2.2] at hrest
  have hlen := congrArg List.length hrest
  have hpos := List.length_pos_iff.mpr (elements_ne_nil rest)
  rw [List.length_append] at hlen
  omega

/-- **Files side by side.** On the way through the elements `K`, no key is the key of other
elements `L` at least as long, nor lies below it. -/
theorem way_apart {K L : List String} (hKp : ∀ e ∈ K, Path.Plain e)
    (hLp : ∀ e ∈ L, Path.Plain e) (hlen : K.length ≤ L.length) (hne : K ≠ L) :
    ∀ q ∈ prefixes K, q ≠ "/".intercalate L ∧ below ("/".intercalate L) q = false := by
  intro q hq
  obtain ⟨i, hi, rfl⟩ := List.mem_map.mp hq
  rw [List.mem_range] at hi
  have hL : L ≠ [] := by
    rintro rfl
    rw [List.length_nil] at hlen
    omega
  -- the key on the way is that of the first `i + 1` elements
  have hT : K.take (i + 1) ≠ [] := by
    intro e
    have := congrArg List.length e
    rw [List.length_take, List.length_nil] at this
    omega
  have hTp : ∀ e ∈ K.take (i + 1), Path.Plain e := fun e he => hKp e (List.mem_of_mem_take he)
  have hTlen : (K.take (i + 1)).length ≤ L.length := by rw [List.length_take]; omega
  refine ⟨fun e => hne ?_, ?_⟩
  · have hTL := intercalate_inj hT hL hTp hLp e
    have hfull : K.take (i + 1) = K := by
      apply List.take_of_length_le
      have := congrArg List.length hTL
      simp at this
      omega
    rw [← hfull, hTL]
  · by_contra hb
    have := length_lt_of_below hT hL hTp hLp (by simpa using hb)
    omega

/-- The way to a path inside the working directory goes through the prefixes of its elements. -/
theorem way_of_elementsOf {t : Tree} {p : String} {es : List String}
    (h : t.elementsOf p = some es) : t.way p = prefixes es := by
  simp [way, h]

/-- A file is named by some elements. -/
theorem elementsOf_of_find_file {t : Tree} {p : String} {d : List UInt8}
    (h : t.find p = .ok (.file d)) : ∃ es, t.elementsOf p = some es ∧ es ≠ [] := by
  unfold find at h
  split at h
  · cases h
  · cases h
  · next es hne heq => exact ⟨es, heq, hne⟩

/-- A directory is named by some elements. -/
theorem elementsOf_of_find_dir {t : Tree} {p : String} (h : t.find p = .ok .dir) :
    ∃ es, t.elementsOf p = some es := by
  unfold find at h
  split at h
  · cases h
  · next heq => exact ⟨[], heq⟩
  · next es _ heq => exact ⟨es, heq⟩

/-- A path that names nothing yet but whose directory is ready is named by some elements. -/
theorem elementsOf_of_parentReady {t : Tree} {p : String} {c : Cause} (hf : t.find p = .error c)
    (hp : t.parentReady p = .ok ()) : ∃ es, t.elementsOf p = some es ∧ es ≠ [] := by
  cases hes : t.elementsOf p with
  | none => simp [parentReady, hes] at hp
  | some es =>
    refine ⟨es, rfl, ?_⟩
    rintro rfl
    rw [find_of_elementsOf_nil hes] at hf
    cases hf

/-- A file written is named by some elements. -/
theorem elementsOf_of_write {t t' : Tree} {p : String} {data : List UInt8}
    (h : t.write p data = .ok t') : ∃ es, t.elementsOf p = some es ∧ es ≠ [] := by
  unfold write at h
  split at h
  · cases h
  · next d hf => exact elementsOf_of_find_file hf
  · next c hf =>
    split at h
    · next hp => exact elementsOf_of_parentReady hf hp
    · cases h

/-- The destination of a rename is named by some elements. -/
theorem elementsOf_of_rename {t t' : Tree} {src dst : String} (h : t.rename src dst = .ok t') :
    ∃ es, t.elementsOf dst = some es ∧ es ≠ [] := by
  unfold rename at h
  split at h
  · cases h
  · split at h
    · cases h
    · next d hf => exact elementsOf_of_find_file hf
    · next c hf =>
      split at h
      · cases h
      · next hp => exact elementsOf_of_parentReady hf hp

/-! ## §2 — one file through a temporary one -/

/-- **Writing a file through a temporary one.** In a sorted tree where `dir` has the elements
`E`, writing bytes to the entry `y` of `dir` and renaming it to the entry `x` leaves the bytes at
`dir/x`; the walk to any path whose elements are no longer than the files' and are neither's
finds what it found before. -/
theorem write_rename {t t₁ t' : Tree} (hs : t.Sorted) (hr : t.RootSane) {dir temp x y : String}
    {E : List String} (hdir : t.elementsOf dir = some E) (hd : dir ≠ "") (hx : Path.Plain x)
    (hy : Path.Plain y) (hxy : x ≠ y) (htemp : t.elementsOf temp = t.elementsOf (dir ++ "/" ++ y))
    {data : List UInt8} (hw : t.write temp data = .ok t₁)
    (hrn : t₁.rename temp (Path.join [dir, x]) = .ok t') :
    t'.find (Path.join [dir, x]) = .ok (.file data) ∧ t'.root = t.root ∧ t'.Sorted ∧
      ∀ p K, t.elementsOf p = some K → K.length ≤ E.length + 1 → K ≠ E ++ [x] → K ≠ E ++ [y] →
        t'.find p = t.find p := by
  have hEp : ∀ e ∈ E, Path.Plain e := elementsOf_plain t hdir
  have hplain : ∀ z, Path.Plain z → ∀ e ∈ E ++ [z], Path.Plain e := by
    intro z hz e he
    rcases List.mem_append.mp he with he | he
    · exact hEp e he
    · rw [List.mem_singleton.mp he]; exact hz
  -- the temporary file is the entry `y` of the directory, the table's file its entry `x`
  obtain ⟨T, hT, hTne⟩ := elementsOf_of_write hw
  obtain ⟨E₁, hE₁, rfl⟩ := elementsOf_child t hd hy (htemp ▸ hT) hTne
  obtain rfl : E = E₁ := Option.some.inj (hdir.symm.trans hE₁)
  have hroot₁ : t₁.root = t.root := write_root hw
  obtain ⟨P, hP, hPne⟩ := elementsOf_of_rename hrn
  rw [elementsOf_congr hroot₁, elementsOf_join t hd hx.1] at hP
  obtain ⟨E₂, hE₂, rfl⟩ := elementsOf_child t hd hx hP hPne
  obtain rfl : E = E₂ := Option.some.inj (hdir.symm.trans hE₂)
  have hkt : t₁.keyOf temp = "/".intercalate (E ++ [y]) := by
    rw [keyOf_congr hroot₁]
    exact keyOf_eq hT (by simp)
  have hkp : t₁.keyOf (Path.join [dir, x]) = "/".intercalate (E ++ [x]) := by
    rw [keyOf_congr hroot₁]
    exact keyOf_eq (by rw [elementsOf_join t hd hx.1]; exact hP) (by simp)
  have hbelow : ∀ es, t₁.elementsOf (Path.join [dir, x]) = some es →
      ∀ k ∈ prefixes es, below (t₁.keyOf temp) k = false := by
    intro es hes k hk
    rw [elementsOf_congr hroot₁, elementsOf_join t hd hx.1, hP] at hes
    cases hes
    rw [hkt]
    exact (way_apart (hplain x hx) (hplain y hy) (by simp) (by simpa using hxy) k hk).2
  have hr₁ : t₁.RootSane := by unfold RootSane; rw [hroot₁]; exact hr
  obtain ⟨hfind, hroot', hsorted', hframe⟩ :=
    rename_file (hs.write hw) hr₁ (find_write hr hw) hbelow hrn
  refine ⟨hfind, hroot'.trans hroot₁, hsorted', fun p K hK hlen hKx hKy => ?_⟩
  -- the walk to `p` reads only keys apart from both files
  have hKp : ∀ e ∈ K, Path.Plain e := elementsOf_plain t hK
  have hax := way_apart hKp (hplain x hx) (by simpa using hlen) hKx
  have hay := way_apart hKp (hplain y hy) (by simpa using hlen) hKy
  have hrenamed : t'.find p = t₁.find p := by
    refine find_congr hroot' fun q hq => ?_
    rw [way_of_elementsOf (by rw [elementsOf_congr hroot₁]; exact hK)] at hq
    refine hframe q ?_ ?_ ?_ ?_
    · rw [hkt]; exact (hay q hq).1
    · rw [hkt]; exact (hay q hq).2
    · rw [hkp]; exact (hax q hq).1
    · rw [hkp]; exact (hax q hq).2
  have hwritten : t₁.find p = t.find p := by
    rw [write_eq_put hw]
    refine find_put_of_not_mem ?_ _
    rw [way_of_elementsOf hK]
    intro hm
    exact (hay _ hm).1 (keyOf_eq hT (by simp))
  rw [hrenamed, hwritten]

end ConfigTables.Files.Tree

namespace ConfigTables.Files

/-- A device write that goes through is a plain write: the device only refuses. -/
theorem Device.write_ok {dev : Device} {t t' : Tree} {p : String} {data : List UInt8}
    (h : dev.write t p data = .ok t') : t.write p data = .ok t' := by
  unfold Device.write at h
  split at h
  · next hw =>
    split at h
    · cases h; exact hw
    · cases h
  · cases h

end ConfigTables.Files

namespace ConfigTables

/-- The codec of a codec's own format is that codec. -/
@[simp] theorem Codec.ofFormat_format (c : Codec) : Codec.ofFormat c.format = .ok c := by
  cases c <;> rfl

namespace Load

open Files Tree

/-- A text that ends in a slash is some text and the slash. -/
theorem exists_of_endsWith_slash {s : String} (h : s.endsWith "/" = true) : ∃ d, s = d ++ "/" := by
  rw [String.endsWith_eq_endsWith_toSlice, String.Slice.endsWith_string_iff] at h
  obtain ⟨l, hl⟩ := h
  refine ⟨String.ofList l, String.toList_inj.mp ?_⟩
  simpa using hl.symm

/-- The temporary file of a table is the entry `.<name>.tmp.*` of the table's directory, whether
or not the directory is written with a final slash. -/
theorem elementsOf_tempName (t : Tree) (dir name : String) :
    t.elementsOf (tempName dir name) = t.elementsOf (dir ++ "/" ++ ("." ++ name ++ ".tmp.*")) := by
  unfold tempName
  split_ifs with h
  · -- the final slash and the one added after it clean to one
    obtain ⟨d, rfl⟩ := exists_of_endsWith_slash h
    have hl : d ++ "/" ++ "." ++ name ++ ".tmp.*" = d ++ "/" ++ ("." ++ name ++ ".tmp.*") := by
      simp only [String.append_assoc]
    have hr : d ++ "/" ++ "/" ++ ("." ++ name ++ ".tmp.*") =
        d ++ "/" ++ ("/" ++ ("." ++ name ++ ".tmp.*")) := by
      simp only [String.append_assoc]
    rw [hl, hr]
    exact elementsOf_eq_of_clean t (by simp) (by simp) (Path.clean_slash_slash _ _).symm
  · simp only [String.append_assoc]

/-- A table name without a slash makes a file name and a temporary name that are each one plain
path element, and not the same. -/
theorem plain_of_no_slash {name : String} (h : name.toList.contains '/' = false) (c : Codec) :
    Path.Plain (name ++ c.format.ext) ∧ Path.Plain ("." ++ name ++ ".tmp.*") ∧
      name ++ c.format.ext ≠ "." ++ name ++ ".tmp.*" := by
  have hname : '/' ∉ name.toList := by simpa using h
  -- the extension has five or six characters and no slash; the temporary name adds seven
  obtain ⟨hext, hslash⟩ : (c.format.ext.length = 5 ∨ c.format.ext.length = 6) ∧
      '/' ∉ c.format.ext.toList := by
    cases c <;> decide
  have hdot : ".".length = 1 := rfl
  have htmp : ".tmp.*".length = 6 := rfl
  have hlong : ∀ s : String, 3 ≤ s.length → s ≠ "" ∧ s ≠ "." ∧ s ≠ ".." := by
    intro s hs
    refine ⟨?_, ?_, ?_⟩ <;> rintro rfl <;> exact absurd hs (by decide)
  obtain ⟨hx1, hx2, hx3⟩ := hlong (name ++ c.format.ext) (by rw [String.length_append]; omega)
  obtain ⟨hy1, hy2, hy3⟩ := hlong ("." ++ name ++ ".tmp.*")
    (by rw [String.length_append, String.length_append]; omega)
  refine ⟨⟨hx1, hx2, hx3, by simp [hname, hslash]⟩, ⟨hy1, hy2, hy3, by simp [hname]⟩, ?_⟩
  intro e
  have := congrArg String.length e
  rw [String.length_append, String.length_append, String.length_append] at this
  omega

section Replace

variable {dev : Device} {fs fs' : Tree} {name dir path : String} {data : List UInt8}

/-- **A replacement that goes through** made the temporary file empty, wrote the bytes to it,
closed it and renamed it over the file, for a name without a slash. -/
theorem replaceFile_ok {path' : String} (h : replaceFile dev fs name dir path data = (fs', .ok path')) :
    name.toList.contains '/' = false ∧ path' = path ∧ ∃ t₂ t₃,
      fs.write (tempName dir name) [] = .ok t₂ ∧ dev.write t₂ (tempName dir name) data = .ok t₃ ∧
      dev.close t₃ (tempName dir name) = .ok () ∧ t₃.rename (tempName dir name) path = .ok fs' := by
  unfold replaceFile at h
  split at h
  · cases h
  · next hsep =>
    simp only at h
    split at h
    · cases h
    · next t₂ hc =>
      split at h
      · cases h
      · next t₃ hw =>
        split at h
        · cases h
        · next hcl =>
          split at h
          · cases h
          · next t₄ hrn =>
            cases h
            exact ⟨by simpa using hsep, rfl, t₂, t₃, hc, hw, hcl, hrn⟩

/-- **A replacement that fails** leaves the tree as it was, or, once it made the temporary file,
the tree as it was without the temporary name. -/
theorem replaceFile_error (hr : fs.RootSane) {e : Fault}
    (h : replaceFile dev fs name dir path data = (fs', .error e)) :
    fs' = fs ∨ name.toList.contains '/' = false ∧ (∃ t₂, fs.write (tempName dir name) [] = .ok t₂) ∧
      fs' = { fs with nodes := fs.nodes.filter (·.1 ≠ fs.keyOf (tempName dir name)) } := by
  unfold replaceFile at h
  split at h
  · cases h; exact .inl rfl
  · next hsep =>
    have hsep' : name.toList.contains '/' = false := by simpa using hsep
    simp only at h
    split at h
    · cases h; exact .inl rfl
    · next t₂ hc =>
      refine .inr ⟨hsep', ⟨t₂, hc⟩, ?_⟩
      -- every later failure removes the temporary file, written empty or with the bytes
      split at h
      · cases h
        exact remove_written hr hc
      · next t₃ hw =>
        have hw' : fs.write (tempName dir name) data = .ok t₃ := write_write hc (Device.write_ok hw)
        split at h
        · cases h
          exact remove_written hr hw'
        · split at h
          · cases h
            exact remove_written hr hw'
          · cases h

end Replace

/-- **What storing one payload does**: the format's codec writes it, the directory is made with
its parents, and the bytes replace the table's file. -/
theorem storeMessage_ok {dev : Device} {fs fs' : Tree} {p : Payload} {name dir path : String}
    {f : Format} (h : storeMessage dev fs p name dir f = (fs', .ok path)) :
    ∃ c data fs₁, Codec.ofFormat f = .ok c ∧ c.write p = .ok data ∧ fs.mkdirAll dir = .ok fs₁ ∧
      replaceFile dev fs₁ name dir (Path.join [dir, name ++ f.ext]) data = (fs', .ok path) := by
  unfold storeMessage at h
  split at h
  · cases h
  · split at h
    · cases h
    · next c hc =>
      split at h
      · cases h
      · next data hw =>
        split at h
        · cases h
        · next fs₁ hm => exact ⟨c, data, fs₁, hc, hw, hm, h⟩

/-- **A store that fails** fails before it changes the tree, or in replacing the file once the
directory is made. -/
theorem storeMessage_error {dev : Device} {fs fs' : Tree} {p : Payload} {name dir : String}
    {f : Format} {e : Fault} (h : storeMessage dev fs p name dir f = (fs', .error e)) :
    fs' = fs ∨ ∃ data fs₁, fs.mkdirAll dir = .ok fs₁ ∧
      replaceFile dev fs₁ name dir (Path.join [dir, name ++ f.ext]) data = (fs', .error e) := by
  unfold storeMessage at h
  split at h
  · cases h; exact .inl rfl
  · split at h
    · cases h; exact .inl rfl
    · split at h
      · cases h; exact .inl rfl
      · next data _ =>
        split at h
        · cases h; exact .inl rfl
        · next fs₁ hm => exact .inr ⟨data, fs₁, hm, h⟩

/-- The temporary file of a table lies on the way to none of the directory's table files. -/
theorem tempKey_not_mem_way {t t₂ : Tree} {name dir : String} (hd : dir ≠ "")
    (hsep : name.toList.contains '/' = false) (c : Codec)
    (hw : t.write (tempName dir name) [] = .ok t₂) :
    t.keyOf (tempName dir name) ∉ t.way (Path.join [dir, name ++ c.format.ext]) := by
  obtain ⟨hx, hy, hxy⟩ := plain_of_no_slash hsep c
  -- the temporary file is the entry `y` of the directory
  obtain ⟨T, hT, hTne⟩ := elementsOf_of_write hw
  rw [elementsOf_tempName] at hT
  obtain ⟨E, hE, rfl⟩ := elementsOf_child t hd hy hT hTne
  have hkey : t.keyOf (tempName dir name) = "/".intercalate (E ++ ["." ++ name ++ ".tmp.*"]) :=
    keyOf_eq (by rw [elementsOf_tempName]; exact hT) (by simp)
  rw [hkey]
  intro hmem
  -- the table file, if it names anything, is the entry `x` of the same directory
  cases hP : t.elementsOf (Path.join [dir, name ++ c.format.ext]) with
  | none => simp [way, hP] at hmem
  | some P =>
    rw [way_of_elementsOf hP] at hmem
    by_cases hPne : P = []
    · subst hPne
      simp [prefixes] at hmem
    rw [elementsOf_join t hd hx.1] at hP
    obtain ⟨E', hE', rfl⟩ := elementsOf_child t hd hx hP hPne
    obtain rfl : E = E' := Option.some.inj (hE.symm.trans hE')
    have hEp := elementsOf_plain t hE
    have hplain : ∀ z, Path.Plain z → ∀ e ∈ E ++ [z], Path.Plain e := by
      intro z hz e he
      rcases List.mem_append.mp he with he | he
      · exact hEp e he
      · rw [List.mem_singleton.mp he]; exact hz
    exact (way_apart (hplain _ hx) (hplain _ hy) (by simp) (by simpa using hxy) _ hmem).1 rfl

/-- **Storing one payload.** A store that goes through, in a sorted tree, leaves the codec's
bytes in the table's file and the directory a directory, and keeps the tree's root and order;
if the directory was there, every other file in it stays as it was, except one at the
temporary name. -/
theorem storeMessage_spec {dev : Device} {fs fs' : Tree} (hs : fs.Sorted) (hr : fs.RootSane)
    {c : Codec} {p : Payload} {name dir path : String}
    (h : storeMessage dev fs p name dir c.format = (fs', .ok path)) :
    fs'.Sorted ∧ fs'.root = fs.root ∧ fs'.find dir = .ok .dir ∧
      (∃ bs, c.write p = .ok bs ∧
        fs'.find (Path.join [dir, name ++ c.format.ext]) = .ok (.file bs)) ∧
      ∀ z d, Path.Plain z → z ≠ name ++ c.format.ext → z ≠ "." ++ name ++ ".tmp.*" →
        fs.find dir = .ok .dir → fs.find (Path.join [dir, z]) = .ok (.file d) →
        fs'.find (Path.join [dir, z]) = .ok (.file d) := by
  obtain ⟨c', data, fs₁, hc, hw, hm, hrep⟩ := storeMessage_ok h
  obtain rfl : c = c' := Except.ok.inj ((Codec.ofFormat_format c).symm.trans hc)
  obtain ⟨hsep, -, t₂, t₃, hcr, hfill, -, hrn⟩ := replaceFile_ok hrep
  obtain ⟨hx, hy, hxy⟩ := plain_of_no_slash hsep c
  -- the bytes written to the empty temporary file are what one write of them leaves
  have hwt : fs₁.write (tempName dir name) data = .ok t₃ := write_write hcr (Device.write_ok hfill)
  obtain ⟨hroot₁, hsorted₁⟩ := mkdirAll_root hm
  have hr₁ : fs₁.RootSane := by unfold RootSane; rw [hroot₁]; exact hr
  have hdir₁ : fs₁.find dir = .ok .dir := find_mkdirAll hr hm
  obtain ⟨E, hE⟩ := elementsOf_of_find_dir hdir₁
  have hd : dir ≠ "" := by
    rintro rfl
    rw [elementsOf_empty_path hr₁] at hE
    cases hE
  obtain ⟨hfile, hroot', hsorted', hkeep⟩ :=
    write_rename (hsorted₁ hs) hr₁ hE hd hx hy hxy (elementsOf_tempName fs₁ dir name) hwt hrn
  refine ⟨hsorted', hroot'.trans hroot₁, ?_, ⟨data, hw, hfile⟩, ?_⟩
  · rw [hkeep dir E hE (by omega) (by simp) (by simp), hdir₁]
  · intro z d hz hzx hzy hdir hf
    -- the directory was there, so making it changed nothing
    rw [mkdirAll_of_dir hdir] at hm
    cases hm
    obtain ⟨es, hes, hne⟩ := elementsOf_of_find_file hf
    rw [elementsOf_join fs hd hz.1] at hes
    obtain ⟨E', hE', rfl⟩ := elementsOf_child fs hd hz hes hne
    obtain rfl : E = E' := Option.some.inj (hE.symm.trans hE')
    rw [← hf]
    exact hkeep _ _ (by rw [elementsOf_join fs hd hz.1]; exact hes) (by simp)
      (by simpa using hzx) (by simpa using hzy)

end Load

namespace Hub

open Files Tree

/-! ## §3 — every table -/

/-- Table names whose files can sit side by side in one directory in a format: each file name
and each temporary name is one plain path element, no file name is a temporary name, and the file
names are distinct. -/
structure Storable (f : Format) (names : List String) : Prop where
  files_nodup : (names.map (· ++ f.ext)).Nodup
  plain : ∀ n ∈ names, Path.Plain (n ++ f.ext)
  plain_temp : ∀ n ∈ names, Path.Plain ("." ++ n ++ ".tmp.*")
  not_temp : ∀ n ∈ names, ∀ m ∈ names, n ++ f.ext ≠ "." ++ m ++ ".tmp.*"

/-- Fewer names can sit side by side too. -/
theorem Storable.sublist {f : Format} {names names' : List String} (h : Storable f names)
    (hs : List.Sublist names' names) : Storable f names' :=
  ⟨h.files_nodup.sublist (hs.map _), fun n hn => h.plain n (hs.subset hn),
    fun n hn => h.plain_temp n (hs.subset hn),
    fun n hn m hm => h.not_temp n (hs.subset hn) m (hs.subset hm)⟩

/-- Joined faults are none exactly when there are none. -/
theorem joinFaults_eq_none {fs : List Fault} : joinFaults fs = none ↔ fs = [] := by
  cases fs <;> simp [joinFaults]

/-- A table's file under a directory holds what a codec writes of the table's payload. -/
def Written (c : Codec) (dir : String) (fs : Tree) (e : String × Table) : Prop :=
  ∃ bs, c.write e.2.message = .ok bs ∧
    fs.find (Path.join [dir, e.1 ++ c.format.ext]) = .ok (.file bs)

section Fold

variable (dev : Device) {c : Codec} {dir : String}
  {G : List String × List Fault × Tree → String × Table → List String × List Fault × Tree}
  (hG : ∀ acc e, (∃ path fs', Load.storeMessage dev acc.2.2 e.2.message e.1 dir c.format =
      (fs', .ok path) ∧ G acc e = (acc.1 ++ [path], acc.2.1, fs')) ∨
    ∃ err fs', G acc e = (acc.1, acc.2.1 ++ [err], fs'))
include hG

/-- Storing tables one by one only ever adds faults. -/
theorem faults_prefix (l : List (String × Table)) (acc : List String × List Fault × Tree) :
    List.IsPrefix acc.2.1 (l.foldl G acc).2.1 := by
  induction l generalizing acc with
  | nil => exact List.prefix_refl _
  | cons e rest ih =>
    refine List.IsPrefix.trans ?_ (ih (G acc e))
    rcases hG acc e with ⟨_, _, -, he⟩ | ⟨err, _, he⟩
    · rw [he]
    · rw [he]
      exact List.prefix_append _ _

/-- **Storing tables one by one.** When no store fails, every table stored, before or now, has
its file: the files stored before are kept, as each later store writes only its own file and
its temporary one. -/
theorem foldl_store (l : List (String × Table)) :
    ∀ (done : List (String × Table)) (acc : List String × List Fault × Tree),
      Storable c.format ((done ++ l).map (·.1)) → acc.2.2.Sorted → acc.2.2.RootSane →
      (done ≠ [] → acc.2.2.find dir = .ok .dir) → (∀ e ∈ done, Written c dir acc.2.2 e) →
      (l.foldl G acc).2.1 = [] → ∀ e ∈ done ++ l, Written c dir (l.foldl G acc).2.2 e := by
  induction l with
  | nil =>
    intro done acc _ _ _ _ hdone _
    simpa using hdone
  | cons e rest ih =>
    intro done acc hst hs hr hdir hdone hfaults
    -- no fault at the end, so this store went through
    have hnil : (G acc e).2.1 = [] := by
      have hpre := faults_prefix dev hG rest (G acc e)
      rw [show (rest.foldl G (G acc e)).2.1 = [] from hfaults] at hpre
      exact List.prefix_nil.mp hpre
    rcases hG acc e with ⟨path, fs₁, hstore, he⟩ | ⟨err, fs₁, he⟩
    · have hmem : e.1 ∈ (done ++ e :: rest).map (·.1) := by simp
      obtain ⟨hs₁, hroot₁, hdir₁, hnew, hkeep⟩ := Load.storeMessage_spec hs hr hstore
      -- a file stored before has another name than this one and its temporary file
      have hold : ∀ x ∈ done, Written c dir fs₁ x := by
        intro x hx
        obtain ⟨bs, hbs, hf⟩ := hdone x hx
        have hxmem : x.1 ∈ (done ++ e :: rest).map (·.1) :=
          List.mem_map_of_mem (List.mem_append_left _ hx)
        have hne : x.1 ++ c.format.ext ≠ e.1 ++ c.format.ext := by
          have hnd := hst.files_nodup
          rw [List.map_map, List.map_append, List.nodup_append] at hnd
          exact hnd.2.2 _ (List.mem_map_of_mem hx) _ (List.mem_map_of_mem List.mem_cons_self)
        exact ⟨bs, hbs, hkeep _ _ (hst.plain _ hxmem) hne (hst.not_temp _ hxmem _ hmem)
          (hdir (List.ne_nil_of_mem hx)) hf⟩
      have hall := ih (done ++ [e]) (G acc e) (by simpa using hst) (by rw [he]; exact hs₁)
        (by rw [he]; unfold RootSane; rw [hroot₁]; exact hr) (fun _ => by rw [he]; exact hdir₁)
        (by
          rw [he]
          intro x hx
          rcases List.mem_append.mp hx with hx | hx
          · exact hold x hx
          · rw [List.mem_singleton.mp hx]; exact hnew)
        hfaults
      simpa using hall
    · rw [he] at hnil
      simp at hnil

end Fold

/-- **What a store leaves.** Storing every table of a hub in a codec's format, on a sorted tree
whose working directory has no path or an absolute one, leaves, when no table failed, each
table's file under the directory holding what the codec wrote of the table's payload. -/
theorem store_writes {h : Hub} {s : Snapshot} (hcur : h.current = some s) {dev : Device}
    {fs fs' : Tree} (hs : fs.Sorted) (hr : fs.RootSane) {c : Codec}
    (hst : Storable c.format (s.tables.map (·.1))) {dir : String} {paths : List String}
    (hok : h.store dev fs dir c.format .all = .ok (paths, none, fs')) :
    ∀ e ∈ s.tables, Written c dir fs' e := by
  unfold Hub.store at hok
  rw [hcur] at hok
  dsimp only at hok
  simp only [Except.ok.injEq, Prod.mk.injEq] at hok
  obtain ⟨-, hj, rfl⟩ := hok
  refine foldl_store dev ?_ s.tables [] ([], [], fs) (by simpa using hst) hs hr (by simp) (by simp)
    (joinFaults_eq_none.mp hj)
  intro acc e
  obtain ⟨n, t⟩ := e
  simp only [Filter.accepts, Bool.not_true, Bool.false_eq_true, if_false]
  split
  · next fs₁ path hstore => exact .inl ⟨path, fs₁, hstore, rfl⟩
  · next fs₁ err _ => exact .inr ⟨err, fs₁, rfl⟩

end Hub

end ConfigTables
