import Mathlib
import ConfigTables.Proofs.StoreFiles
import ConfigTables.Proofs.LoadCycle
/-!
# Storing a hub table by table

Storing a loaded hub goes through the tables its filter accepts, in ascending name order, and
stores each one on its own, on the tree the one before it left: the codec writes the table's
payload, the directory is made, a temporary file `.<name>.tmp.*` is made empty in it, the bytes
are written to it and it is closed, and one rename makes it the table's file `<dir>/<name><ext>`.
The device under the tree may refuse the bytes, as they are written or as the file is closed. A
table that fails after its temporary file was made removes that file again; it reports its
fault, and the store goes on with the next table.

* `storeMessage_writes`, `storeMessage_fails_cleanly`: **one table** went through every step,
  and its file holds the codec's bytes; or it failed, and left no file that was not there before
  with the same data, its own file kept (the directory it made stays).
* `StoreRun`: what storing tables in order does, table by table, with each table's outcome.
* `store_isolates_tables`: **storing a loaded hub** goes through exactly the accepted tables in
  ascending name order, each with its own outcome, returns the paths written in that order and
  joins the faults; a format that cannot be stored fails every table and writes nothing; a hub
  that has not loaded stores nothing.
-/

namespace ConfigTables.Hub

open Files Tree

/-! ## §1 — one table -/

/-- **One table stored**: a store that goes through, on a sorted tree whose working directory
has no path or an absolute one, made the directory, made the temporary file empty, wrote the
codec's bytes of the payload to it in full, closed it and renamed it to the table's file, which
then holds those bytes; the tree stays sorted and keeps its root. -/
theorem storeMessage_writes {dev : Device} {fs fs' : Tree} (hs : fs.Sorted) (hr : fs.RootSane)
    {c : Codec} {p : Payload} {name dir path : String}
    (h : Load.storeMessage dev fs p name dir c.format = (fs', .ok path)) :
    ∃ bs fs₁ fs₂ fs₃, c.write p = .ok bs ∧ fs.mkdirAll dir = .ok fs₁ ∧
      fs₁.write (Load.tempName dir name) [] = .ok fs₂ ∧
      dev.write fs₂ (Load.tempName dir name) bs = .ok fs₃ ∧
      dev.close fs₃ (Load.tempName dir name) = .ok () ∧
      fs₃.rename (Load.tempName dir name) (Path.join [dir, name ++ c.format.ext]) = .ok fs' ∧
      path = Path.join [dir, name ++ c.format.ext] ∧
      fs'.find (Path.join [dir, name ++ c.format.ext]) = .ok (.file bs) ∧
      fs'.Sorted ∧ fs'.RootSane := by
  obtain ⟨c', bs, fs₁, hc, hw, hm, hrep⟩ := Load.storeMessage_ok h
  obtain rfl : c = c' := Except.ok.inj ((Codec.ofFormat_format c).symm.trans hc)
  obtain ⟨-, hpath, fs₂, fs₃, hcr, hfill, hcl, hrn⟩ := Load.replaceFile_ok hrep
  obtain ⟨hs', hroot', -, ⟨bs', hw', hfile⟩, -⟩ := Load.storeMessage_spec hs hr h
  obtain rfl : bs = bs' := Except.ok.inj (hw.symm.trans hw')
  refine ⟨bs, fs₁, fs₂, fs₃, hw, hm, hcr, hfill, hcl, hrn, hpath, hfile, hs', ?_⟩
  unfold RootSane
  rw [hroot']
  exact hr

/-- **One table that fails** leaves the tree sorted with its root, and no file behind: every file
of the tree after it was there before with the same data, so neither a temporary file nor a
half-written table file is left; and the table's file, if there was one, is kept. -/
theorem storeMessage_fails_cleanly {dev : Device} {fs fs' : Tree} (hs : fs.Sorted)
    (hr : fs.RootSane) {c : Codec} {p : Payload} {name dir : String} {e : Fault}
    (h : Load.storeMessage dev fs p name dir c.format = (fs', .error e)) :
    fs'.Sorted ∧ fs'.RootSane ∧
      (∀ k d, (k, Node.file d) ∈ fs'.nodes → (k, Node.file d) ∈ fs.nodes) ∧
      ∀ d, fs.find (Path.join [dir, name ++ c.format.ext]) = .ok (.file d) →
        fs'.find (Path.join [dir, name ++ c.format.ext]) = .ok (.file d) := by
  rcases Load.storeMessage_error h with rfl | ⟨data, fs₁, hm, hrep⟩
  · exact ⟨hs, hr, fun _ _ hk => hk, fun _ hf => hf⟩
  -- the directory was made: it keeps what was found and adds no file
  obtain ⟨hroot₁, hsorted₁⟩ := mkdirAll_root hm
  have hr₁ : fs₁.RootSane := by unfold RootSane; rw [hroot₁]; exact hr
  have hfiles₁ := files_of_mkdirAll hm
  have hkeep₁ : ∀ d, fs.find (Path.join [dir, name ++ c.format.ext]) = .ok (.file d) →
      fs₁.find (Path.join [dir, name ++ c.format.ext]) = .ok (.file d) :=
    fun _ hf => find_mkdirAll_of_found hm hf
  rcases Load.replaceFile_error hr₁ hrep with rfl | ⟨hsep, ⟨fs₂, hcr⟩, rfl⟩
  · exact ⟨hsorted₁ hs, hr₁, hfiles₁, hkeep₁⟩
  -- the temporary file was made and removed again: its key is off the way to the table's file
  have hd : dir ≠ "" := by
    rintro rfl
    obtain ⟨_, he⟩ := mkdirAll_empty_path hr
    rw [he] at hm
    cases hm
  refine ⟨(hsorted₁ hs).filter _, hr₁, fun k d hk => hfiles₁ k d (List.mem_filter.mp hk).1,
    fun d hf => ?_⟩
  rw [find_erase_of_not_mem (Load.tempKey_not_mem_way hd hsep c hcr)]
  exact hkeep₁ d hf

/-! ## §2 — tables in order -/

/-- The fault of an outcome that failed. -/
def faultOf? : Except Fault String → Option Fault
  | .error e => some e
  | .ok _ => none

/-- How storing tables in order on a device goes, from one tree to another, with each table's
outcome: the path written, or the fault. A table written had the directory made, its temporary
file made empty, the codec's bytes of its payload written to it in full and the file closed, and
one rename made it the table's file `<dir>/<name><ext>`, which holds those bytes after. A table
that fails leaves no file behind that was not there before with the same data, and keeps the
table's file if there was one; the tables after it are stored all the same, on the tree it left. -/
inductive StoreRun (dev : Device) (c : Codec) (dir : String) :
    Tree → List (String × Table) → List (Except Fault String) → Tree → Prop
  | nil (t : Tree) : StoreRun dev c dir t [] [] t
  | wrote {t t₁ t₂ t₃ t' t'' : Tree} {n : String} {x : Table} {rest : List (String × Table)}
      {outs : List (Except Fault String)} {bs : List UInt8}
      (encoded : c.write x.message = .ok bs)
      (made : t.mkdirAll dir = .ok t₁)
      (created : t₁.write (Load.tempName dir n) [] = .ok t₂)
      (filled : dev.write t₂ (Load.tempName dir n) bs = .ok t₃)
      (closed : dev.close t₃ (Load.tempName dir n) = .ok ())
      (renamed : t₃.rename (Load.tempName dir n) (Path.join [dir, n ++ c.format.ext]) = .ok t')
      (holds : t'.find (Path.join [dir, n ++ c.format.ext]) = .ok (.file bs))
      (tail : StoreRun dev c dir t' rest outs t'') :
      StoreRun dev c dir t ((n, x) :: rest) (.ok (Path.join [dir, n ++ c.format.ext]) :: outs) t''
  | failed {t t' t'' : Tree} {n : String} {x : Table} {rest : List (String × Table)}
      {outs : List (Except Fault String)} {e : Fault}
      (fails : Load.storeMessage dev t x.message n dir c.format = (t', .error e))
      (no_new_file : ∀ k d, (k, Node.file d) ∈ t'.nodes → (k, Node.file d) ∈ t.nodes)
      (keeps_file : ∀ d, t.find (Path.join [dir, n ++ c.format.ext]) = .ok (.file d) →
        t'.find (Path.join [dir, n ++ c.format.ext]) = .ok (.file d))
      (tail : StoreRun dev c dir t' rest outs t'') :
      StoreRun dev c dir t ((n, x) :: rest) (.error e :: outs) t''

section Fold

variable {dev : Device} {c : Codec} {dir : String} {accept : Filter}
  {G : List String × List Fault × Tree → String × Table → List String × List Fault × Tree}
  (hG : ∀ acc e, (accept.accepts e.1 = false ∧ G acc e = acc) ∨
    (accept.accepts e.1 = true ∧ ∃ path t', Load.storeMessage dev acc.2.2 e.2.message e.1 dir
      c.format = (t', .ok path) ∧ G acc e = (acc.1 ++ [path], acc.2.1, t')) ∨
    (accept.accepts e.1 = true ∧ ∃ err t', Load.storeMessage dev acc.2.2 e.2.message e.1 dir
      c.format = (t', .error err) ∧ G acc e = (acc.1, acc.2.1 ++ [err], t')))
include hG

/-- **Storing tables one by one**: the paths and faults gathered are those of a run through the
accepted tables, one outcome each, in order. -/
theorem foldl_store_run (l : List (String × Table)) :
    ∀ acc : List String × List Fault × Tree, acc.2.2.Sorted → acc.2.2.RootSane →
      ∃ outs t', StoreRun dev c dir acc.2.2 (l.filter (accept.accepts ·.1)) outs t' ∧
        l.foldl G acc = (acc.1 ++ outs.filterMap Except.toOption,
          acc.2.1 ++ outs.filterMap faultOf?, t') := by
  induction l with
  | nil =>
    intro acc _ _
    exact ⟨[], acc.2.2, .nil _, by simp⟩
  | cons e rest ih =>
    intro acc hs hr
    obtain ⟨n, x⟩ := e
    rcases hG acc (n, x) with ⟨hrej, hGe⟩ | ⟨hacc, path, t', hstore, hGe⟩ |
      ⟨hacc, err, t', hstore, hGe⟩
    · -- a table the filter rejects is passed over
      obtain ⟨outs, t'', hrun, hfold⟩ := ih acc hs hr
      refine ⟨outs, t'', ?_, ?_⟩
      · simpa [List.filter_cons, hrej] using hrun
      · rw [List.foldl_cons, hGe, hfold]
    · -- a table written: its file holds its bytes, and the store goes on from the new tree
      obtain ⟨bs, t₁, t₂, t₃, hw, hm, hcr, hfill, hcl, hrn, rfl, hfile, hs', hr'⟩ :=
        storeMessage_writes hs hr hstore
      have hG' : (G acc (n, x)).2.2 = t' := by rw [hGe]
      obtain ⟨outs, t'', hrun, hfold⟩ := ih (G acc (n, x)) (hG' ▸ hs') (hG' ▸ hr')
      rw [hG'] at hrun
      refine ⟨.ok (Path.join [dir, n ++ c.format.ext]) :: outs, t'', ?_, ?_⟩
      · simpa [List.filter_cons, hacc] using StoreRun.wrote hw hm hcr hfill hcl hrn hfile hrun
      · rw [List.foldl_cons, hfold, hGe]
        simp [List.filterMap_cons, faultOf?, Except.toOption]
    · -- a table that fails leaves no file behind, and the store goes on from the tree it left
      obtain ⟨hs', hr', hfiles, hkeep⟩ := storeMessage_fails_cleanly hs hr hstore
      have hG' : (G acc (n, x)).2.2 = t' := by rw [hGe]
      obtain ⟨outs, t'', hrun, hfold⟩ := ih (G acc (n, x)) (hG' ▸ hs') (hG' ▸ hr')
      rw [hG'] at hrun
      refine ⟨.error err :: outs, t'', ?_, ?_⟩
      · simpa [List.filter_cons, hacc] using StoreRun.failed hstore hfiles hkeep hrun
      · rw [List.foldl_cons, hfold, hGe]
        simp [List.filterMap_cons, faultOf?, Except.toOption]

/-- What a store returns after storing tables one by one from no paths and no faults. -/
theorem store_result_of_foldl (l : List (String × Table)) (fs : Tree) (hs : fs.Sorted)
    (hr : fs.RootSane) :
    ∃ outs fs', StoreRun dev c dir fs (l.filter (accept.accepts ·.1)) outs fs' ∧
      (.ok ((l.foldl G ([], [], fs)).1, joinFaults (l.foldl G ([], [], fs)).2.1,
          (l.foldl G ([], [], fs)).2.2) : Except Fault (List String × Option Fault × Tree)) =
        .ok (outs.filterMap Except.toOption, joinFaults (outs.filterMap faultOf?), fs') := by
  obtain ⟨outs, fs', hrun, hfold⟩ := foldl_store_run hG l ([], [], fs) hs hr
  exact ⟨outs, fs', hrun, by rw [hfold]; simp⟩

end Fold

/-- Storing tables one by one when every store fails the same way, with a fault of the table's
name: the faults are those of the accepted tables, in order, and the tree is untouched. -/
theorem foldl_store_refused {accept : Filter} {F : String → Fault}
    {G : List String × List Fault × Tree → String × Table → List String × List Fault × Tree}
    (hG : ∀ acc e, G acc e = if accept.accepts e.1 then (acc.1, acc.2.1 ++ [F e.1], acc.2.2) else acc)
    (l : List (String × Table)) (acc : List String × List Fault × Tree) :
    l.foldl G acc = (acc.1, acc.2.1 ++ (l.filter (accept.accepts ·.1)).map (F ·.1), acc.2.2) := by
  induction l generalizing acc with
  | nil => simp
  | cons e rest ih =>
    rw [List.foldl_cons, ih, hG]
    cases ha : accept.accepts e.1 <;> simp [ha]

/-! ## §3 — storing a loaded hub -/

/-- **Storing a loaded hub, table by table.** Let a hub over an ordered registry whose accepted
constructors all give tables load, and let a filter pick some of its tables: they come in
ascending name order. Storing them in a codec's format on any device, on a sorted tree whose
working directory has no path or an absolute one, is a run through exactly those tables, one
outcome each: the store returns the paths of the tables written, each `<dir>/<name><ext>` put in
place by one rename of a complete temporary file, in order, and joins the faults of the others,
in order; a table that fails leaves no file behind and keeps its own file, and the next is stored
all the same. A format that cannot be stored fails every picked table with an illegal parameter
and leaves the tree as it was. Before its load, the hub stores nothing. -/
theorem store_isolates_tables {h : Hub} (hr : h.registry.Ordered) (hb : h.Builds)
    (fs₀ : Tree) (req : Request) (stamp : Stamp) (ctx : Context) {fs : Tree}
    (hs : fs.Sorted) (hroot : fs.RootSane) (dev : Device) (dir : String) (accept : Filter) :
    let L := (h.load fs₀ req stamp ctx).1
    let A := L.tables.filter (accept.accepts ·.1)
    (A.map (·.1)).Pairwise (· < ·) ∧
      (∀ c : Codec, ∃ outs fs', StoreRun dev c dir fs A outs fs' ∧
        L.store dev fs dir c.format accept =
          .ok (outs.filterMap Except.toOption, joinFaults (outs.filterMap faultOf?), fs')) ∧
      (∀ f : Format, f.loadable = false → L.store dev fs dir f accept =
        .ok ([], joinFaults (A.map fun e =>
          .load .illegalParam e.1 "" (some (.text ("cannot store format " ++ f.name)))), fs)) ∧
      (h.current = none → ∀ f, h.store dev fs dir f accept = .error (.sentinel .notLoaded)) := by
  intro L A
  obtain ⟨s, hcur⟩ : ∃ s, L.current = some s := by
    simp only [L]
    rw [load_eq hb]
    exact ⟨_, rfl⟩
  have htables : L.tables = s.tables := by simp [Hub.tables, hcur]
  refine ⟨?_, fun c => ?_, fun f hf => ?_, fun hnone f => ?_⟩
  · -- the picked names are some of the accepted names, which ascend
    have hsorted := Hub.accepted_ordered hr
    rw [← Hub.load_names fs₀ req stamp ctx hb] at hsorted
    exact hsorted.sublist ((List.filter_sublist).map _)
  · unfold Hub.store
    rw [hcur]
    dsimp only
    simp only [A, htables]
    refine store_result_of_foldl (fun acc e => ?_) s.tables fs hs hroot
    -- the store's own step: a rejected table is passed over, an accepted one stored
    obtain ⟨n, x⟩ := e
    dsimp only
    cases accept.accepts n
    · exact .inl ⟨rfl, if_pos (by simp)⟩
    · rw [if_neg (by simp)]
      split
      · next t' path hstore => exact .inr (.inl ⟨rfl, path, t', hstore, rfl⟩)
      · next t' err hstore => exact .inr (.inr ⟨rfl, err, t', hstore, rfl⟩)
  · unfold Hub.store
    rw [hcur]
    dsimp only
    rw [foldl_store_refused (F := fun n =>
      .load .illegalParam n "" (some (.text ("cannot store format " ++ f.name)))) (fun acc e => by
        obtain ⟨n, x⟩ := e
        cases accept.accepts n <;> simp [Load.storeMessage, hf])]
    simp [A, htables]
  · unfold Hub.store
    rw [hnone]

/-- The program's own tables, loaded from an empty tree, meet the theorem's hypotheses, and so
does the empty tree they are stored to: storing them in the binary format on a device with room
for no octet is a run through every table, one outcome each. -/
theorem registry_store_runs_every_table :
    let h := Hub.create Command.registry ⟨.all, [], none, false⟩
    let L := (h.load .empty ⟨"conf", .json, []⟩ .unplaced .background).1
    h.registry.Ordered ∧ h.Builds ∧ Tree.empty.Sorted ∧ Tree.empty.RootSane ∧
      ∃ outs fs', StoreRun ⟨some 0, false⟩ .binary "out" .empty
          (L.tables.filter (Filter.all.accepts ·.1)) outs fs' ∧
        L.store ⟨some 0, false⟩ .empty "out" Codec.binary.format .all =
          .ok (outs.filterMap Except.toOption, joinFaults (outs.filterMap faultOf?), fs') :=
  ⟨registry_ordered, Hub.create_registry_builds _, List.Pairwise.nil, Or.inl rfl,
    (store_isolates_tables registry_ordered (Hub.create_registry_builds _) .empty
      ⟨"conf", .json, []⟩ .unplaced .background (show Tree.empty.Sorted from List.Pairwise.nil)
      (Or.inl rfl) ⟨some 0, false⟩ "out" .all).2.1 .binary⟩

end ConfigTables.Hub
