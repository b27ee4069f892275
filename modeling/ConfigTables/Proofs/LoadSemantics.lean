import Mathlib
import ConfigTables.Proofs.FailureSites
/-!
# Loading a table, as a reference semantics

What loading a table's payload does, stated rule by rule over an abstract file system: `stat`
says whether a path names a file, and `load` loads one file, in a format, into a payload.

* The format is the explicit file's when the options name one (refused when its extension names
  no format), else the one asked for (refused when it cannot be loaded); both refusals come before
  any file is looked at or read.
* The patch files are the options' explicit ones when there are any, else `<dir>/<name><ext>` in
  each patch directory, with the extension of the format chosen; those that are files are kept,
  in order.
* Mode `onlyMain`, or no patch file and a mode other than `onlyPatch` (any unknown mode among
  them): one load of the table's file. No patch file and `onlyPatch`: the payload is kept.
* Patch files and a mode other than `onlyMain`: `replace` loads the last patch file alone, in its
  own format; `merge` loads the table's file (unless `onlyPatch`) and then each patch file, in its
  own format, into a fresh payload merged over the payload, stopping at the first failure
  (`Patching`); any other patch rule is refused.

`Loads` states these rules; `loadMessage_iff_reference` shows that a table's load gives exactly
the outcome the rules give, over the tree's files and the table's load step.
-/

namespace ConfigTables

namespace Load

/-- The patch files a table read in format `g` looks for: the explicit patch files if any, else
`<dir>/<name><ext>` in each patch directory, in order. -/
def patchCandidates (o : TableOptions) (name : String) (g : Format) : List String :=
  if o.patchPaths.isEmpty then o.shared.patchDirs.map (fun d => Files.Path.join [d, name ++ g.ext])
  else o.patchPaths

/-- The outcome of loading with patch files `qs`: the patch files are reported when the load
succeeds. -/
def withPatches (qs : List String) : Step → Loaded
  | .filled q => ⟨.filled q, qs⟩
  | s => ⟨s, []⟩

section Rules

variable (stat : String → Bool) (load : Payload → String → Format → Step)

/-- **Applying patch files one by one over a payload**: each patch file, whose extension must name
a format, is loaded in that format into a fresh payload, which is merged over the payload; the
first failure stops the run. -/
inductive Patching (name : String) : Payload → List String → Step → Prop
  /-- No patch file is left: the payload is the outcome. -/
  | done {cur : Payload} : Patching name cur [] (.filled cur)
  /-- The patch file's extension names no format. -/
  | unknownExtension {cur : Payload} {q : String} {qs : List String}
      (hu : Format.ofPath q = .unknown) :
      Patching name cur (q :: qs) (.failed cur (patchExtensionFault name q))
  /-- The payload has no fresh copy to load the patch file into. -/
  | noFresh {cur : Payload} {q msg : String} {qs : List String} (hu : Format.ofPath q ≠ .unknown)
      (hf : cur.fresh = .error msg) :
      Patching name cur (q :: qs) (.failed cur (.load .illegalParam name q (some (.text msg))))
  /-- Loading the patch file panicked. -/
  | panicked {cur next : Payload} {q v : String} {qs : List String} (hu : Format.ofPath q ≠ .unknown)
      (hf : cur.fresh = .ok next) (hl : load next q (Format.ofPath q) = .panicked v) :
      Patching name cur (q :: qs) (.panicked v)
  /-- Loading the patch file failed; the payload is kept and the fault named for the table. -/
  | unloaded {cur next p' : Payload} {q : String} {qs : List String} {e : Fault}
      (hu : Format.ofPath q ≠ .unknown) (hf : cur.fresh = .ok next)
      (hl : load next q (Format.ofPath q) = .failed p' e) :
      Patching name cur (q :: qs) (.failed cur (classify name q e))
  /-- The patch file loaded but does not merge over the payload. -/
  | unmerged {cur next n : Payload} {q msg : String} {qs : List String}
      (hu : Format.ofPath q ≠ .unknown) (hf : cur.fresh = .ok next)
      (hl : load next q (Format.ofPath q) = .filled n) (hm : cur.mergeOver n = .error msg) :
      Patching name cur (q :: qs) (.failed cur (.load .parse name q (some (.text msg))))
  /-- The patch file loaded and merged; the rest apply over the merged payload. -/
  | merged {cur next n m : Payload} {q : String} {qs : List String} {s : Step}
      (hu : Format.ofPath q ≠ .unknown) (hf : cur.fresh = .ok next)
      (hl : load next q (Format.ofPath q) = .filled n) (hm : cur.mergeOver n = .ok m)
      (rest : Patching name m qs s) :
      Patching name cur (q :: qs) s

variable (o : TableOptions) (p : Payload) (name dir : String) (f : Format)

/-- The format a table is read in, when neither refusal applies: the explicit file's, whose
extension names one, else the one asked for, which can be loaded. -/
def Chooses (g : Format) : Prop :=
  (o.path ≠ "" ∧ Format.ofPath o.path ≠ .unknown ∧ g = Format.ofPath o.path) ∨
    (o.path = "" ∧ f.loadable = true ∧ g = f)

/-- **The reference semantics of loading a table** over a file system seen through `stat` and
`load`. Each rule names the table's file `tablePath name dir g (some o)` and the patch files that
are files, `(patchCandidates o name g).filter stat`, for the format `g` chosen. -/
inductive Loads : Loaded → Prop
  /-- The explicit file's extension names no format: refused, with nothing looked at. -/
  | unknownExtension (hp : o.path ≠ "") (hu : Format.ofPath o.path = .unknown) :
      Loads ⟨.failed p (.load .unknownFormat name o.path
        (some (.text ("unrecognized extension " ++ Text.Quoted.quote (Files.Path.ext o.path))))), []⟩
  /-- The format asked for cannot be loaded: refused, with nothing looked at. -/
  | unloadable (hp : o.path = "") (hf : f.loadable = false) :
      Loads ⟨.failed p (.load .illegalParam name "" (some (.text ("cannot load format " ++ f.name)))), []⟩
  /-- Only the table's file, or no patch file and a mode other than `onlyPatch`: one load of the
  table's file in the format chosen. -/
  | single {g : Format} (hg : Chooses o f g)
      (hm : o.mode = .onlyMain ∨ ((patchCandidates o name g).filter stat = [] ∧ o.mode ≠ .onlyPatch)) :
      Loads ⟨(load p (tablePath name dir g (some o)) g).classify name (tablePath name dir g (some o)), []⟩
  /-- No patch file and mode `onlyPatch`: the payload is kept. -/
  | untouched {g : Format} (hg : Chooses o f g) (hm : o.mode = .onlyPatch)
      (he : (patchCandidates o name g).filter stat = []) :
      Loads ⟨.filled p, []⟩
  /-- `replace` with patch files: the last one alone, whose extension names no format. -/
  | replaceUnknown {g : Format} (hg : Chooses o f g) (hm : o.mode ≠ .onlyMain)
      (he : (patchCandidates o name g).filter stat ≠ []) (hr : o.patch = .replace)
      (hu : Format.ofPath (((patchCandidates o name g).filter stat).getLastD "") = .unknown) :
      Loads ⟨.failed p (patchExtensionFault name (((patchCandidates o name g).filter stat).getLastD "")), []⟩
  /-- `replace` with patch files: one load of the last one, in its own format. -/
  | replaced {g : Format} (hg : Chooses o f g) (hm : o.mode ≠ .onlyMain)
      (he : (patchCandidates o name g).filter stat ≠ []) (hr : o.patch = .replace)
      (hu : Format.ofPath (((patchCandidates o name g).filter stat).getLastD "") ≠ .unknown) :
      Loads (withPatches ((patchCandidates o name g).filter stat)
        ((load p (((patchCandidates o name g).filter stat).getLastD "")
          (Format.ofPath (((patchCandidates o name g).filter stat).getLastD ""))).classify name
          (((patchCandidates o name g).filter stat).getLastD "")))
  /-- `merge` with patch files, the table's file first: its load failed or panicked. -/
  | mainFailed {g : Format} {s : Step} (hg : Chooses o f g) (hm : o.mode ≠ .onlyMain)
      (he : (patchCandidates o name g).filter stat ≠ []) (hr : o.patch = .merge)
      (hp : o.mode ≠ .onlyPatch)
      (hs : (load p (tablePath name dir g (some o)) g).classify name (tablePath name dir g (some o)) = s)
      (hn : ∀ q, s ≠ .filled q) :
      Loads ⟨s, []⟩
  /-- `merge` with patch files: the patches applied over the table's file, or over the payload
  when only patches are wanted. -/
  | merged {g : Format} {cur : Payload} {s : Step} (hg : Chooses o f g) (hm : o.mode ≠ .onlyMain)
      (he : (patchCandidates o name g).filter stat ≠ []) (hr : o.patch = .merge)
      (hstart : (if o.mode ≠ .onlyPatch then
        (load p (tablePath name dir g (some o)) g).classify name (tablePath name dir g (some o))
        else .filled p) = .filled cur)
      (hs : Patching load name cur ((patchCandidates o name g).filter stat) s) :
      Loads (withPatches ((patchCandidates o name g).filter stat) s)
  /-- Patch files, and a patch rule that is neither `merge` nor `replace`: refused. -/
  | patchRule {g : Format} (hg : Chooses o f g) (hm : o.mode ≠ .onlyMain)
      (he : (patchCandidates o name g).filter stat ≠ []) (hr : o.patch ≠ .replace)
      (hmerge : o.patch ≠ .merge) :
      Loads ⟨.failed p (.load .illegalParam name (tablePath name dir g (some o))
        (some (.text ("unknown patch type " ++ o.patch.name)))), []⟩

end Rules

/-! ## §2 — the tree's files and the table's load step follow the rules -/

section Bridge

variable {fs : Files.Tree} {o : TableOptions} {p : Payload} {name dir : String} {f : Format}

/-- The patch files a load finds are its candidates that are files. -/
theorem patchFiles_eq (fs : Files.Tree) (name : String) (g : Format) (o : TableOptions) :
    patchFiles fs name g o = (patchCandidates o name g).filter fs.isFile := rfl

/-- The format chosen when neither refusal applies is the one `formatFor` names, and it can be
loaded. -/
theorem Chooses.formatFor {g : Format} (hg : Chooses o f g) :
    g = o.formatFor f ∧ g.loadable = true := by
  rcases hg with ⟨hp, hu, rfl⟩ | ⟨hp, hf, rfl⟩
  · exact ⟨by simp [TableOptions.formatFor, hp], Format.loadable_of_ofPath hu⟩
  · exact ⟨by simp [TableOptions.formatFor, hp], hf⟩

/-- When neither refusal applies, the format `formatFor` names is the one chosen. -/
theorem chooses_formatFor (hu : ¬(o.path ≠ "" ∧ Format.ofPath o.path = .unknown))
    (hf : ¬(o.path = "" ∧ f.loadable = false)) : Chooses o f (o.formatFor f) := by
  by_cases hp : o.path = ""
  · exact .inr ⟨hp, by simpa [hp] using hf, by simp [TableOptions.formatFor, hp]⟩
  · exact .inl ⟨hp, by simpa [hp] using hu, by simp [TableOptions.formatFor, hp]⟩

/-- **A load once its format is chosen**: the table's file alone, the payload kept, or the patch
files applied by the patch rule. -/
theorem loadMessage_of_chooses {g : Format} (hg : Chooses o f g) :
    loadMessage fs p name dir f (some o) =
      if o.mode = .onlyMain then
        ⟨(runStep fs o p (tablePath name dir g (some o)) g).classify name (tablePath name dir g (some o)), []⟩
      else if (patchFiles fs name g o).isEmpty then
        if o.mode = .onlyPatch then ⟨.filled p, []⟩
        else ⟨(runStep fs o p (tablePath name dir g (some o)) g).classify name (tablePath name dir g (some o)), []⟩
      else withPatches (patchFiles fs name g o)
        (loadWithPatches fs o p name (tablePath name dir g (some o)) g (patchFiles fs name g o)) := by
  unfold loadMessage
  rcases hg with ⟨hp, hu, rfl⟩ | ⟨hp, hf, rfl⟩
  · simp only [Option.getD_some, if_pos hp, if_neg hu]
    split_ifs <;> rfl
  · simp only [Option.getD_some, hp, ne_eq, not_true_eq_false, if_false, hf, Bool.not_true,
      Bool.false_eq_true]
    split_ifs <;> rfl

/-- An outcome with patch files that is no success reports none. -/
theorem withPatches_of_ne {qs : List String} {s : Step} (hs : ∀ q, s ≠ .filled q) :
    withPatches qs s = ⟨s, []⟩ := by
  cases s with
  | filled q => exact absurd rfl (hs q)
  | failed => rfl
  | panicked => rfl

/-- **Merging patch files follows the rules.** -/
theorem patching_mergePatches (fs : Files.Tree) (o : TableOptions) (name : String) :
    ∀ (cur : Payload) (qs : List String),
      Patching (runStep fs o) name cur qs (mergePatches fs o name cur qs)
  | _, [] => .done
  | cur, q :: qs => by
    simp only [mergePatches]
    split
    · next hu => exact .unknownExtension hu
    · next hu =>
      split
      · next msg hf => exact .noFresh hu hf
      · next next hf =>
        split
        · next v hl => exact .panicked hu hf hl
        · next p' e hl => exact .unloaded hu hf hl
        · next n hl =>
          split
          · next msg hm => exact .unmerged hu hf hl hm
          · next m hm => exact .merged hu hf hl hm (patching_mergePatches fs o name m qs)

/-- The rules give a run of patch files the one outcome merging computes. -/
theorem Patching.eq_mergePatches {cur : Payload} {qs : List String} {s : Step}
    (h : Patching (runStep fs o) name cur qs s) : s = mergePatches fs o name cur qs := by
  induction h with
  | done => rfl
  | unknownExtension hu => simp [mergePatches, hu]
  | noFresh hu hf => simp [mergePatches, hu, hf]
  | panicked hu hf hl => simp [mergePatches, hu, hf, hl]
  | unloaded hu hf hl => simp [mergePatches, hu, hf, hl]
  | unmerged hu hf hl hm => simp [mergePatches, hu, hf, hl, hm]
  | merged hu hf hl hm _ ih => simp [mergePatches, hu, hf, hl, hm, ih]

/-- With patch files found and a mode other than `onlyMain`, loading with them follows the rules. -/
theorem loads_loadWithPatches {g : Format} (hg : Chooses o f g) (hm : o.mode ≠ .onlyMain)
    (he : patchFiles fs name g o ≠ []) :
    Loads fs.isFile (runStep fs o) o p name dir f (withPatches (patchFiles fs name g o)
      (loadWithPatches fs o p name (tablePath name dir g (some o)) g (patchFiles fs name g o))) := by
  rw [patchFiles_eq] at he ⊢
  unfold loadWithPatches
  by_cases hr : o.patch = .replace
  · -- the last patch file alone
    simp only [if_pos hr]
    by_cases hu : Format.ofPath (((patchCandidates o name g).filter fs.isFile).getLastD "") = .unknown
    · simp only [if_pos hu]
      exact .replaceUnknown hg hm he hr hu
    · simp only [if_neg hu]
      exact .replaced hg hm he hr hu
  · by_cases hmerge : o.patch = .merge
    · -- the table's file, unless only patches are wanted, then the patch files over it
      simp only [if_neg hr, if_pos hmerge]
      split
      · next cur hstart => exact .merged hg hm he hmerge hstart (patching_mergePatches fs o name cur _)
      · next _ hns =>
        -- the start did not fill the payload, so the table's file was loaded and failed
        have hp : o.mode ≠ .onlyPatch := by
          intro hp
          simp only [hp, ne_eq, not_true_eq_false, if_false] at hns
          exact hns p rfl
        simp only [hp, ne_eq, not_false_eq_true, if_true] at hns ⊢
        rw [withPatches_of_ne hns]
        exact .mainFailed hg hm he hmerge hp rfl hns
    · simp only [if_neg hr, if_neg hmerge]
      exact .patchRule hg hm he hr hmerge

/-- **A table's load follows the rules**, over the tree's files and the table's load step. -/
theorem loads_loadMessage (fs : Files.Tree) (p : Payload) (name dir : String) (f : Format)
    (o : TableOptions) :
    Loads fs.isFile (runStep fs o) o p name dir f (loadMessage fs p name dir f (some o)) := by
  by_cases hu : o.path ≠ "" ∧ Format.ofPath o.path = .unknown
  · have hl : loadMessage fs p name dir f (some o) = ⟨.failed p (.load .unknownFormat name o.path
        (some (.text ("unrecognized extension " ++ Text.Quoted.quote (Files.Path.ext o.path))))), []⟩ := by
      simp [loadMessage, hu.1, hu.2]
    rw [hl]
    exact .unknownExtension hu.1 hu.2
  by_cases hf : o.path = "" ∧ f.loadable = false
  · have hl : loadMessage fs p name dir f (some o) =
        ⟨.failed p (.load .illegalParam name "" (some (.text ("cannot load format " ++ f.name)))), []⟩ := by
      simp [loadMessage, hf.1, hf.2]
    rw [hl]
    exact .unloadable hf.1 hf.2
  -- neither refusal: the format is chosen
  have hg : Chooses o f (o.formatFor f) := chooses_formatFor hu hf
  rw [loadMessage_of_chooses hg]
  split_ifs with hm he hp
  · exact .single hg (.inl hm)
  · exact .untouched hg hp (by simpa [patchFiles_eq] using he)
  · exact .single hg (.inr ⟨by simpa [patchFiles_eq] using he, hp⟩)
  · exact loads_loadWithPatches hg hm (by simpa using he)

/-- **The rules give a table's load one outcome**: the one the load computes. -/
theorem Loads.eq_loadMessage {r : Loaded} (h : Loads fs.isFile (runStep fs o) o p name dir f r) :
    r = loadMessage fs p name dir f (some o) := by
  have hne : Mode.onlyPatch ≠ Mode.onlyMain := by decide
  have hrm : PatchRule.merge ≠ PatchRule.replace := by decide
  cases h with
  | unknownExtension hp hu => simp [loadMessage, hp, hu]
  | unloadable hp hf => simp [loadMessage, hp, hf]
  | single hg hm =>
    rw [loadMessage_of_chooses hg]
    rcases hm with hm | ⟨he, hp⟩
    · rw [if_pos hm]
    · by_cases hm : o.mode = .onlyMain
      · rw [if_pos hm]
      · rw [if_neg hm, if_pos (by simpa [patchFiles_eq] using he), if_neg hp]
  | untouched hg hm he =>
    rw [loadMessage_of_chooses hg, if_neg (by rw [hm]; exact hne),
      if_pos (by simpa [patchFiles_eq] using he), if_pos hm]
  | @replaceUnknown g hg hm he hr hu =>
    rw [loadMessage_of_chooses hg, if_neg hm, if_neg (by simpa [patchFiles_eq] using he)]
    simp only [loadWithPatches, if_pos hr]
    rw [if_pos (show Format.ofPath ((patchFiles fs name g o).getLastD "") = .unknown from hu)]
    rfl
  | @replaced g hg hm he hr hu =>
    rw [loadMessage_of_chooses hg, if_neg hm, if_neg (by simpa [patchFiles_eq] using he)]
    simp only [loadWithPatches, if_pos hr]
    rw [if_neg (show Format.ofPath ((patchFiles fs name g o).getLastD "") ≠ .unknown from hu)]
    rfl
  | @mainFailed g s hg hm he hr hp hs hn =>
    rw [loadMessage_of_chooses hg, if_neg hm, if_neg (by simpa [patchFiles_eq] using he)]
    simp only [loadWithPatches, hr, if_neg hrm, if_true, if_pos hp, hs, patchFiles_eq]
    -- the table's file failed or panicked, so no patch file is applied
    cases s with
    | filled q => exact absurd rfl (hn q)
    | failed => rfl
    | panicked => rfl
  | merged hg hm he hr hstart hs =>
    rw [loadMessage_of_chooses hg, if_neg hm, if_neg (by simpa [patchFiles_eq] using he)]
    simp only [loadWithPatches, hr, if_neg hrm, if_true, hstart, patchFiles_eq]
    rw [hs.eq_mergePatches]
  | patchRule hg hm he hr hmerge =>
    rw [loadMessage_of_chooses hg, if_neg hm, if_neg (by simpa [patchFiles_eq] using he)]
    simp only [loadWithPatches, if_neg hr, if_neg hmerge]
    rfl

end Bridge

/-! ## §3 — a table's load is its reference semantics -/

/-- **Loading a table is its reference semantics.** For every file tree, payload, table name,
directory, format asked for and options (none at all, unknown modes and unknown patch rules
included), a load's outcome is `r` exactly when the rules of `Loads` give `r` over the tree's files
and the table's load step: the format refused before anything is looked at, one load of the table's
file, the payload kept, the last patch file alone, or the patch files merged in order over the
table's file. -/
theorem loadMessage_iff_reference (fs : Files.Tree) (p : Payload) (name dir : String) (f : Format)
    (opts : Option TableOptions) (r : Loaded) :
    loadMessage fs p name dir f opts = r ↔
      Loads fs.isFile (runStep fs (opts.getD .unset)) (opts.getD .unset) p name dir f r := by
  -- no options read as options with nothing set
  have hopts : loadMessage fs p name dir f opts =
      loadMessage fs p name dir f (some (opts.getD .unset)) := by
    cases opts <;> rfl
  rw [hopts]
  constructor
  · rintro rfl
    exact loads_loadMessage fs p name dir f _
  · intro h
    exact h.eq_loadMessage.symm

end Load

end ConfigTables
