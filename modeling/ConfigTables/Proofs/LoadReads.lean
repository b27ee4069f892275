import Mathlib
import ConfigTables.Proofs.LoadSemantics
import ConfigTables.Proofs.ValidatedLoads
/-!
# The files a load reads

A table's load looks at the file tree through two questions only: whether a path names a file
(for each patch candidate) and what a file holds (through the reader, or the tree when there is
none). Both are asked about one list of paths, `reads`: the table's file and its patch candidates.

* `loadMessage_frame`: **two trees that look alike at `reads` give the same load**, each read
  through its own reader, for options with no load step of their own.
* `Alike.of_find`: trees that find the same node at every path of a list look alike there, read
  directly or through a fresh cache over each tree, which is how the program reads.
* `forTable_withReader`: a reader set after the overrides of the settings reaches every table as
  its reader, and changes nothing else of the table's options.
-/

namespace ConfigTables

namespace Load

/-! ## §1 — options with another reader -/

/-- The options with their reader replaced. Reducible, so that a decision about one of the
other fields reads the same for every reader. -/
@[reducible] def TableOptions.withReader (o : TableOptions) (r : Option Reader) : TableOptions :=
  { o with shared := { o.shared with reader := r } }

namespace TableOptions

variable (o : TableOptions) (r : Option Reader)

@[simp] theorem withReader_reader : (o.withReader r).shared.reader = r := rfl
@[simp] theorem withReader_loader : (o.withReader r).shared.loader = o.shared.loader := rfl
@[simp] theorem withReader_patchDirs : (o.withReader r).shared.patchDirs = o.shared.patchDirs := rfl
@[simp] theorem withReader_path : (o.withReader r).path = o.path := rfl
@[simp] theorem withReader_patchPaths : (o.withReader r).patchPaths = o.patchPaths := rfl
@[simp] theorem withReader_patch : (o.withReader r).patch = o.patch := rfl
@[simp] theorem withReader_mode : (o.withReader r).mode = o.mode := rfl
@[simp] theorem withReader_ignoreUnknown : (o.withReader r).ignoreUnknown = o.ignoreUnknown := rfl

/-- Options keep themselves with their own reader. -/
theorem withReader_self : o.withReader o.shared.reader = o := rfl

end TableOptions

/-- The files a load of table `name` may look at: its file, and each of its patch candidates in
the format the load chooses. -/
def reads (o : TableOptions) (name dir : String) (f : Format) : List String :=
  tablePath name dir f (some o) :: patchCandidates o name (o.formatFor f)

/-! ## §2 — a load looks only at the files it may read -/

/-- Two trees, each read through its own reader, look alike at the files `qs`: each of them is a
file in both or in neither, and reads the same in both. -/
def Alike (qs : List String) (fs₁ fs₂ : Files.Tree) (o : TableOptions) (r₁ r₂ : Option Reader) :
    Prop :=
  ∀ q ∈ qs, fs₁.isFile q = fs₂.isFile q ∧
    readOctets fs₁ (o.withReader r₁) q = readOctets fs₂ (o.withReader r₂) q

section Frame

variable {fs₁ fs₂ : Files.Tree} {o : TableOptions} {r₁ r₂ : Option Reader}

theorem Alike.tail {q : String} {qs : List String} (h : Alike (q :: qs) fs₁ fs₂ o r₁ r₂) :
    Alike qs fs₁ fs₂ o r₁ r₂ :=
  fun x hx => h x (List.mem_cons_of_mem _ hx)

theorem Alike.mono {qs qs' : List String} (h : Alike qs fs₁ fs₂ o r₁ r₂) (hsub : qs' ⊆ qs) :
    Alike qs' fs₁ fs₂ o r₁ r₂ :=
  fun x hx => h x (hsub hx)

/-- The default load step of one file depends on what the file reads only. -/
theorem runStep_congr (hl : o.shared.loader = none) {q : String}
    (hq : readOctets fs₁ (o.withReader r₁) q = readOctets fs₂ (o.withReader r₂) q)
    (p : Payload) (g : Format) :
    runStep fs₁ (o.withReader r₁) p q g = runStep fs₂ (o.withReader r₂) p q g := by
  simp only [runStep, hl]
  unfold loadByPath
  simp only [hq, TableOptions.withReader_ignoreUnknown]

/-- The patch files found depend on which candidates are files only. -/
theorem patchFiles_congr {name : String} {g : Format}
    (h : ∀ q ∈ patchCandidates o name g, fs₁.isFile q = fs₂.isFile q) :
    patchFiles fs₁ name g (o.withReader r₁) = patchFiles fs₂ name g (o.withReader r₂) := by
  rw [patchFiles_eq, patchFiles_eq]
  exact List.filter_congr h

/-- Merging patch files depends on what they read only. -/
theorem mergePatches_congr (hl : o.shared.loader = none) (name : String) :
    ∀ (cur : Payload) (qs : List String), Alike qs fs₁ fs₂ o r₁ r₂ →
      mergePatches fs₁ (o.withReader r₁) name cur qs = mergePatches fs₂ (o.withReader r₂) name cur qs
  | _, [], _ => rfl
  | cur, q :: qs, h => by
    -- the rest of the run is the same from every payload the patch file leaves
    have ih : ∀ cur', mergePatches fs₁ (o.withReader r₁) name cur' qs =
        mergePatches fs₂ (o.withReader r₂) name cur' qs :=
      fun cur' => mergePatches_congr hl name cur' qs h.tail
    simp only [mergePatches, runStep_congr hl (h q List.mem_cons_self).2, ih]

/-- Loading with patch files depends on what the table's file and the patch files read only. -/
theorem loadWithPatches_congr (hl : o.shared.loader = none) {p : Payload} {name path : String}
    {g : Format} {patches : List String}
    (hpath : readOctets fs₁ (o.withReader r₁) path = readOctets fs₂ (o.withReader r₂) path)
    (h : Alike patches fs₁ fs₂ o r₁ r₂) :
    loadWithPatches fs₁ (o.withReader r₁) p name path g patches =
      loadWithPatches fs₂ (o.withReader r₂) p name path g patches := by
  -- `replace` reads the last patch file, unless there is none and its empty name is refused
  have hlast : Format.ofPath (patches.getLastD "") ≠ .unknown →
      runStep fs₁ (o.withReader r₁) p (patches.getLastD "") (Format.ofPath (patches.getLastD "")) =
        runStep fs₂ (o.withReader r₂) p (patches.getLastD "") (Format.ofPath (patches.getLastD "")) := by
    intro hu
    rcases List.eq_nil_or_concat patches with rfl | ⟨L, b, rfl⟩
    · exact absurd (by decide +kernel) hu
    · rw [List.concat_eq_append, List.getLastD_concat]
      exact runStep_congr hl (h b (by simp)).2 _ _
  unfold loadWithPatches
  simp only [TableOptions.withReader_mode, runStep_congr hl hpath,
    mergePatches_congr hl name _ patches h]
  by_cases hu : Format.ofPath (patches.getLastD "") = .unknown
  · simp only [hu, ↓reduceIte]
    rfl
  · simp only [hlast hu]
    rfl

/-- **A load looks only at the files it may read.** For options with no load step of their own
and every two trees, each read through its own reader: when the trees look alike at the table's
file and its patch candidates, the load gives the same outcome and the same patch files over
both. -/
theorem loadMessage_frame (hl : o.shared.loader = none) {p : Payload} {name dir : String}
    {f : Format} (h : Alike (reads o name dir f) fs₁ fs₂ o r₁ r₂) :
    loadMessage fs₁ p name dir f (some (o.withReader r₁)) =
      loadMessage fs₂ p name dir f (some (o.withReader r₂)) := by
  -- the refusals come before any file is looked at
  by_cases hu : o.path ≠ "" ∧ Format.ofPath o.path = .unknown
  · simp [loadMessage, hu.1, hu.2]
  by_cases hf : o.path = "" ∧ f.loadable = false
  · simp [loadMessage, hf.1, hf.2]
  have hg : ∀ r, Chooses (o.withReader r) f (o.formatFor f) := fun r =>
    chooses_formatFor (o := o.withReader r) hu hf
  have htable : ∀ r, tablePath name dir (o.formatFor f) (some (o.withReader r)) =
      tablePath name dir f (some o) := fun r => tablePath_formatFor name dir f o
  have hmain := (h _ List.mem_cons_self).2
  have hcands : Alike (patchCandidates o name (o.formatFor f)) fs₁ fs₂ o r₁ r₂ := h.tail
  have hpatches : patchFiles fs₁ name (o.formatFor f) (o.withReader r₁) =
      patchFiles fs₂ name (o.formatFor f) (o.withReader r₂) :=
    patchFiles_congr fun q hq => (hcands q hq).1
  -- the patch files found are among the candidates
  have hfound : Alike (patchFiles fs₂ name (o.formatFor f) (o.withReader r₂)) fs₁ fs₂ o r₁ r₂ :=
    hcands.mono fun q hq => (List.mem_filter.mp hq).1
  rw [loadMessage_of_chooses (hg r₁), loadMessage_of_chooses (hg r₂), htable, htable, hpatches,
    loadWithPatches_congr hl hmain hfound]
  simp only [TableOptions.withReader_mode, runStep_congr hl hmain]
  rfl

end Frame

/-! ## §3 — trees that find the same nodes -/

section Trees

variable {fs₁ fs₂ : Files.Tree} {q : String}

theorem isFile_congr (h : fs₁.find q = fs₂.find q) : fs₁.isFile q = fs₂.isFile q := by
  simp only [Files.Tree.isFile, h]

/-- Reading a file straight from the tree depends on the node found only. -/
theorem readOctets_none_congr (o : TableOptions) (h : fs₁.find q = fs₂.find q) :
    readOctets fs₁ (o.withReader none) q = readOctets fs₂ (o.withReader none) q := by
  simp only [readOctets, Files.Tree.read, h]

/-- Reading a file through a fresh cache over the tree depends on the node found only. -/
theorem readOctets_cached_congr (o : TableOptions) (h : fs₁.find q = fs₂.find q) :
    readOctets fs₁ (o.withReader (some (Command.cachedReader fs₁))) q =
      readOctets fs₂ (o.withReader (some (Command.cachedReader fs₂))) q := by
  simp only [readOctets, Command.cachedReader, Cache.readThrough, Cache.readFrom, Cache.readVia,
    Files.Disk.stat, Files.Disk.rest, Files.Tree.read, h]

/-- **Trees that find the same nodes at the files `qs` look alike there**, read straight from
each tree or through a fresh cache over each. -/
theorem Alike.of_find {qs : List String} (h : ∀ q ∈ qs, fs₁.find q = fs₂.find q)
    (o : TableOptions) (cached : Bool) :
    Alike qs fs₁ fs₂ o (if cached then some (Command.cachedReader fs₁) else none)
      (if cached then some (Command.cachedReader fs₂) else none) := by
  intro q hq
  refine ⟨isFile_congr (h q hq), ?_⟩
  cases cached with
  | false => exact readOctets_none_congr o (h q hq)
  | true => exact readOctets_cached_congr o (h q hq)

end Trees

/-! ## §4 — the reader a program sets -/

/-- **A reader set over the global options reaches every table**, when no override sets a
reader of its own, and changes nothing else of the table's options. -/
theorem forTable_withReader {o : Options} (n : String)
    (hov : ∀ mo, o.override? n = some mo → mo.shared.reader = none) (r : Option Reader) :
    ({ o with shared := { o.shared with reader := r } } : Options).forTable n =
      (o.forTable n).withReader r := by
  -- replacing the global reader keeps the overrides
  have hsame : ({ o with shared := { o.shared with reader := r } } : Options).override? n =
      o.override? n := rfl
  rcases hn : o.override? n with _ | mo
  · rw [Options.forTable_of_override?_none hn, Options.forTable_of_override?_none (hsame.trans hn)]
  · rw [Options.forTable_of_override?_some hn, Options.forTable_of_override?_some (hsame.trans hn)]
    simp only [hov mo hn, Option.none_or]

end Load

namespace Config.Settings

variable {c : Settings}

/-- The settings set no reader for any table. -/
theorem forTable_loadSetters_reader (names : List String) (n : String) :
    ((Load.Options.ofSetters (c.loadSetters names)).forTable n).shared.reader = none := by
  rcases hn : (Load.Options.ofSetters (c.loadSetters names)).override? n with _ | mo
  · rw [Load.Options.forTable_of_override?_none hn]
    simp [globalOptions]
  · obtain ⟨e, -, -, rfl⟩ := override?_loadSetters hn
    rw [Load.Options.forTable_of_override?_some hn]
    simp [entryOptions, globalOptions]

/-- **The options a program loads a table with**: the settings' own options for the table, read
through a fresh cache over the tree when the cache is on. -/
theorem forTable_loadSetters_cached (names : List String) (n : String) (cached : Bool)
    (fs : Files.Tree) :
    (Load.Options.ofSetters (c.loadSetters names ++
        if cached then [.reader (Command.cachedReader fs)] else [])).forTable n =
      ((Load.Options.ofSetters (c.loadSetters names)).forTable n).withReader
        (if cached then some (Command.cachedReader fs) else none) := by
  cases cached with
  | false =>
    rw [if_neg Bool.false_ne_true, if_neg Bool.false_ne_true, List.append_nil,
      ← forTable_loadSetters_reader (c := c) names n, Load.TableOptions.withReader_self]
  | true =>
    rw [if_pos rfl, if_pos rfl, Load.Options.ofSetters_append_reader]
    refine Load.forTable_withReader n (fun mo hmo => ?_) _
    obtain ⟨e, -, -, rfl⟩ := override?_loadSetters hmo
    rfl

end Config.Settings

end ConfigTables
