import Mathlib
import ConfigTables.Proofs.ReadFailures
/-!
# Where loading a table fails

Loading a table's payload fails at one of a few places, and the fault it reports says which.
Before any file is read: an explicit file whose extension names no format, or a requested format
that cannot be loaded. While patches are applied: a patch file of no known format, a payload with
no fresh copy to read a patch into, or a patch rule that is neither merge nor replace. While one
file is read: the reader fails on it, the codec of its format rejects its octets, it does not
merge over the payload held, or a custom load step fails on it.

Each place is pinned to the run: the file read, the format it is read in and the payload it is
read into (`Load.ReadsInto`), and for patches merged one by one, the payload the load holds when
it reaches each of them (`Load.Reaches`).

* `Load.Fails`: these places, each with the fault it reports. Every such fault is a table-load
  failure naming the table, except that a custom load step's own table-load failure keeps its kind,
  file and cause (and its table name, when it has one); its file is the table's file or the patch
  file at fault, and none when the format was refused.
* `Load.loadMessage_fails`: **every failure of a table's load is one of them**, whatever the
  options, reader, load step and files.
* `Load.Fails.notFound_iff`, `Load.Fails.parse_iff`: with the default load step the fault is a
  missing file exactly when the reader failed on a file the load reads, and a parse failure exactly
  when the codec of the file's format rejected its octets or a patch did not merge.
* `Load.Fails.hasLoadKind_iff`: with the default load step and a reader whose failures say nothing
  of table loads, the fault matches exactly one of the four named kinds.
-/

namespace ConfigTables

namespace Load

/-- The format a table is read in: the explicit file's when there is one, else the one asked for. -/
def TableOptions.formatFor (o : TableOptions) (f : Format) : Format :=
  if o.path ≠ "" then Format.ofPath o.path else f

/-! ## §1 — the places a load fails -/

section Sites

variable (fs : Files.Tree) (o : TableOptions) (p : Payload) (name dir : String) (f : Format)

/-- The payload a load that merges patches holds when it reaches each patch file: what the
table's file filled the table's payload with (the table's payload itself when only patches are
wanted), then, patch by patch, the patch read into a fresh payload and merged over it. -/
inductive Reaches : Payload → List String → Prop
  | start {cur : Payload} (hm : o.patch = .merge)
      (hs : (if o.mode ≠ .onlyPatch then
        (runStep fs o p (tablePath name dir f (some o)) (o.formatFor f)).classify name
          (tablePath name dir f (some o)) else .filled p) = .filled cur) :
      Reaches cur (patchFiles fs name (o.formatFor f) o)
  | next {cur p₀ n merged : Payload} {q : String} {qs : List String}
      (h : Reaches cur (q :: qs)) (hu : Format.ofPath q ≠ .unknown) (hf : cur.fresh = .ok p₀)
      (hn : runStep fs o p₀ q (Format.ofPath q) = .filled n) (hm : cur.mergeOver n = .ok merged) :
      Reaches merged qs

/-- A file a load reads, with the format it reads it in and the payload it reads it into: the
table's file, in the table's format, into the table's payload; under `replace`, the last patch
file, in its own format, into the table's payload; under `merge`, each patch file reached, in its
own format, into a fresh copy of the payload held there. -/
inductive ReadsInto : String → Format → Payload → Prop
  | main : ReadsInto (tablePath name dir f (some o)) (o.formatFor f) p
  | last (hr : o.patch = .replace) (hne : patchFiles fs name (o.formatFor f) o ≠ []) :
      ReadsInto ((patchFiles fs name (o.formatFor f) o).getLastD "")
        (Format.ofPath ((patchFiles fs name (o.formatFor f) o).getLastD "")) p
  | patch {cur p₀ : Payload} {q : String} {qs : List String}
      (h : Reaches fs o p name dir f cur (q :: qs)) (hf : cur.fresh = .ok p₀) :
      ReadsInto q (Format.ofPath q) p₀

/-- The faults a load of table `name` can fail with, by the place it fails. -/
inductive Fails : Fault → Prop
  /-- The explicit file's extension names no format; no file is read. -/
  | unknownExtension (hp : o.path ≠ "") (hu : Format.ofPath o.path = .unknown) :
      Fails (.load .unknownFormat name o.path
        (some (.text ("unrecognized extension " ++ Text.Quoted.quote (Files.Path.ext o.path)))))
  /-- The format asked for cannot be loaded; no file is read, and none is named. -/
  | unloadable (hp : o.path = "") (hf : f.loadable = false) :
      Fails (.load .illegalParam name "" (some (.text ("cannot load format " ++ f.name))))
  /-- Under `replace`, the last patch file's extension names no format. -/
  | lastExtension (hr : o.patch = .replace) (hne : patchFiles fs name (o.formatFor f) o ≠ [])
      (hu : Format.ofPath ((patchFiles fs name (o.formatFor f) o).getLastD "") = .unknown) :
      Fails (patchExtensionFault name ((patchFiles fs name (o.formatFor f) o).getLastD ""))
  /-- Under `merge`, a patch file reached has an extension that names no format. -/
  | patchExtension {cur : Payload} {q : String} {qs : List String}
      (h : Reaches fs o p name dir f cur (q :: qs)) (hu : Format.ofPath q = .unknown) :
      Fails (patchExtensionFault name q)
  /-- The payload held when a patch file is reached has no fresh copy to read it into. -/
  | noFresh {cur : Payload} {q msg : String} {qs : List String}
      (h : Reaches fs o p name dir f cur (q :: qs)) (hu : Format.ofPath q ≠ .unknown)
      (hf : cur.fresh = .error msg) :
      Fails (.load .illegalParam name q (some (.text msg)))
  /-- Patch files were found, but the patch rule is neither merge nor replace. -/
  | patchRule (hne : patchFiles fs name (o.formatFor f) o ≠ []) (hm : o.patch ≠ .merge)
      (hr : o.patch ≠ .replace) :
      Fails (.load .illegalParam name (tablePath name dir f (some o))
        (some (.text ("unknown patch type " ++ o.patch.name))))
  /-- The default load step's reader failed on file `q`. -/
  | unread {q : String} {g : Format} {p₀ : Payload} {err : Fault}
      (hq : ReadsInto fs o p name dir f q g p₀) (hl : o.shared.loader = none)
      (hr : readOctets fs o q = .error err) :
      Fails (.load .notFound name q (some err))
  /-- The codec of file `q`'s format rejected its octets, read into the payload the load reads
  `q` into. -/
  | undecoded {q msg : String} {g : Format} {p₀ p' : Payload} {c : Codec} {bs : List UInt8}
      (hq : ReadsInto fs o p name dir f q g p₀) (hl : o.shared.loader = none)
      (hc : Codec.ofFormat g = .ok c) (hr : readOctets fs o q = .ok bs)
      (hd : c.read o.ignoreUnknown bs p₀ = (p', some msg)) :
      Fails (.load .parse name q (some (.text msg)))
  /-- Patch file `q` was read into a fresh copy of the payload held, but does not merge over it. -/
  | unmerged {cur p₀ n : Payload} {q msg : String} {qs : List String}
      (h : Reaches fs o p name dir f cur (q :: qs)) (hu : Format.ofPath q ≠ .unknown)
      (hf : cur.fresh = .ok p₀) (hn : runStep fs o p₀ q (Format.ofPath q) = .filled n)
      (hm : cur.mergeOver n = .error msg) :
      Fails (.load .parse name q (some (.text msg)))
  /-- A custom load step failed on file `q` with a table-load failure of its own: its kind, file
  and cause are kept, and its table name unless it has none. -/
  | customLoad {q : String} {g : Format} {p₀ p' : Payload} {l : Loader} {e : Fault} {k : LoadKind}
      {t q' : String} {c : Option Fault} (hq : ReadsInto fs o p name dir f q g p₀)
      (hl : o.shared.loader = some l) (hs : l p₀ q g = .failed p' e)
      (he : firstLoadFault? e = some (.load k t q' c)) :
      Fails (.load k (if t = "" then name else t) q' c)
  /-- A custom load step failed on file `q` with any other fault, which becomes a parse failure of
  `q` wrapping it. -/
  | customOther {q : String} {g : Format} {p₀ p' : Payload} {l : Loader} {e : Fault}
      (hq : ReadsInto fs o p name dir f q g p₀) (hl : o.shared.loader = some l)
      (hs : l p₀ q g = .failed p' e) (he : e.firstLoad? = none) :
      Fails (.load .parse name q (some e))

end Sites

/-! ## §2 — every failure is at one of these places -/

/-- The first table-load failure of a fault is a table-load failure node, the one `firstLoad?`
names. -/
theorem firstLoadFault?_some {e x : Fault} (h : firstLoadFault? e = some x) :
    ∃ k t q c, x = .load k t q c ∧ e.firstLoad? = some (k, t, q) := by
  unfold firstLoadFault? at h
  unfold Fault.firstLoad?
  -- the nodes before the first load failure are no load failures, so they name nothing
  obtain ⟨hx, before, after, hnodes, hbefore⟩ := List.find?_eq_some_iff_append.1 h
  cases x with
  | load k t q c =>
    refine ⟨k, t, q, c, rfl, ?_⟩
    rw [hnodes, List.findSome?_append, List.findSome?_eq_none_iff.2 fun y hy => ?_]
    · rfl
    · cases y with
      | load k' t' q' c' => exact absurd (hbefore _ hy) (by simp)
      | _ => rfl
  | _ => cases hx

theorem firstLoadFault?_eq_none {e : Fault} (h : firstLoadFault? e = none) :
    e.firstLoad? = none := by
  unfold firstLoadFault? at h
  unfold Fault.firstLoad?
  refine List.findSome?_eq_none_iff.2 fun y hy => ?_
  cases y with
  | load k t q c => exact absurd rfl (List.find?_eq_none.1 h _ hy)
  | _ => rfl

/-- A step named for a table failed because the step did, with its fault named. -/
theorem Step.classify_failed {s : Step} {name q : String} {p' : Payload} {e : Fault}
    (h : s.classify name q = .failed p' e) : ∃ e', s = .failed p' e' ∧ e = Load.classify name q e' := by
  cases s with
  | failed p e' =>
    cases h
    exact ⟨e', rfl, rfl⟩
  | filled p => cases h
  | panicked v => cases h

/-- The table's file does not depend on whether its format is the asked one or the explicit
file's. -/
theorem tablePath_formatFor (name dir : String) (f : Format) (o : TableOptions) :
    tablePath name dir (o.formatFor f) (some o) = tablePath name dir f (some o) := by
  simp only [tablePath, TableOptions.formatFor]
  split_ifs <;> simp_all

section Inversion

variable {fs : Files.Tree} {o : TableOptions} {p : Payload} {name dir : String} {f : Format}

/-- **The default load step fails reading or decoding**: for a loadable format, the reader failed
and the fault is a missing file, or the codec of the format rejected the octets and it is a parse
failure. -/
theorem loadByPath_failed {p₀ p' : Payload} {q : String} {g : Format} (hg : g.loadable = true)
    {e : Fault} (h : loadByPath fs p₀ q g (some o) = .failed p' e) :
    (∃ err, readOctets fs o q = .error err ∧ e = .load .notFound "" q (some err)) ∨
      ∃ (c : Codec) (bs : List UInt8) (msg : String), Codec.ofFormat g = .ok c ∧
        readOctets fs o q = .ok bs ∧ c.read o.ignoreUnknown bs p₀ = (p', some msg) ∧
        e = .load .parse "" q (some (.text msg)) := by
  obtain ⟨c, hc⟩ := Codec.ofFormat_of_loadable hg
  unfold loadByPath at h
  simp only [hg, Bool.not_true, Bool.false_eq_true, if_false, hc] at h
  rcases hread : readOctets fs o q with err | bs
  · rw [hread] at h
    cases h
    exact .inl ⟨err, rfl, rfl⟩
  · rw [hread] at h
    dsimp only at h
    rcases hres : c.read o.ignoreUnknown bs p₀ with ⟨p₁, _ | msg⟩
    · rw [hres] at h
      cases h
    · rw [hres] at h
      cases h
      exact .inr ⟨c, bs, msg, hc, rfl, hres, rfl⟩

/-- **A failed load step of a file the load reads is one of the places**, once named for the
table: the default step's reader or codec, or the custom step. -/
theorem runStep_fails {q : String} {g : Format} {p₀ : Payload}
    (hq : ReadsInto fs o p name dir f q g p₀) (hg : g.loadable = true) {p' : Payload} {e : Fault}
    (h : runStep fs o p₀ q g = .failed p' e) : Fails fs o p name dir f (classify name q e) := by
  unfold runStep at h
  split at h
  · next l hl =>
    -- a custom step's fault keeps its own first table-load failure, if it has one
    rcases hx : firstLoadFault? e with _ | x
    · have hc : classify name q e = .load .parse name q (some e) := by simp [classify, hx]
      rw [hc]
      exact .customOther hq hl h (firstLoadFault?_eq_none hx)
    · obtain ⟨k, t, q', c, rfl, -⟩ := firstLoadFault?_some hx
      have hc : classify name q e = .load k (if t = "" then name else t) q' c := by
        simp only [classify, hx]
        split_ifs <;> rfl
      rw [hc]
      exact .customLoad hq hl h hx
  · next hl =>
    rcases loadByPath_failed hg h with ⟨err, hr, rfl⟩ | ⟨c, bs, msg, hc, hr, hd, rfl⟩
    · rw [classify_load, if_pos rfl]
      exact .unread hq hl hr
    · rw [classify_load, if_pos rfl]
      exact .undecoded hq hl hc hr hd

/-- Merging the patch files from a payload the load reaches fails only at one of the places. -/
theorem mergePatches_fails {p' : Payload} {e : Fault} :
    ∀ (qs : List String) (cur : Payload), Reaches fs o p name dir f cur qs →
      mergePatches fs o name cur qs = .failed p' e → Fails fs o p name dir f e
  | [], cur, _, h => by simp [mergePatches] at h
  | q :: qs, cur, hcur, h => by
    simp only [mergePatches] at h
    split at h
    · next hu =>
      cases h
      exact .patchExtension hcur hu
    · next hu =>
      split at h
      · next msg hfresh =>
        cases h
        exact .noFresh hcur hu hfresh
      · next next hfresh =>
        split at h
        · cases h
        · next e' hs =>
          cases h
          exact runStep_fails (.patch hcur hfresh) (Format.loadable_of_ofPath hu) hs
        · next n hs =>
          split at h
          · next msg hm =>
            cases h
            exact .unmerged hcur hu hfresh hs hm
          · next merged hm =>
            exact mergePatches_fails qs merged (.next hcur hu hfresh hs hm) h

/-- Loading with the patch files the load found fails only at one of the places: the last patch
under `replace`, the table's file and then each patch under `merge`, and the patch rule
otherwise. -/
theorem loadWithPatches_fails {p' : Payload} {e : Fault}
    (hg : (o.formatFor f).loadable = true) (hne : patchFiles fs name (o.formatFor f) o ≠ [])
    (h : loadWithPatches fs o p name (tablePath name dir f (some o)) (o.formatFor f)
      (patchFiles fs name (o.formatFor f) o) = .failed p' e) :
    Fails fs o p name dir f e := by
  unfold loadWithPatches at h
  split at h
  · next hr =>
    -- only the last patch is read
    dsimp only at h
    split at h
    · next hu =>
      cases h
      exact .lastExtension hr hne hu
    · next hu =>
      obtain ⟨e', hs, rfl⟩ := Step.classify_failed h
      exact runStep_fails (.last hr hne) (Format.loadable_of_ofPath hu) hs
  · split at h
    · next hm =>
      -- the table's file unless only patches are wanted, then every patch over it
      dsimp only at h
      split at h
      · next cur hstart =>
        exact mergePatches_fails _ cur (.start hm hstart) h
      · split at h
        · obtain ⟨e', hs', rfl⟩ := Step.classify_failed h
          exact runStep_fails .main hg hs'
        · cases h
    · next hr hm =>
      cases h
      exact .patchRule hne hm hr

/-- **Every failure of a table's load is at one of the places**, whatever the options, reader,
load step and files. -/
theorem loadMessage_fails (fs : Files.Tree) (p : Payload) (name dir : String) (f : Format)
    (opts : Option TableOptions) {p' : Payload} {e : Fault}
    (h : (loadMessage fs p name dir f opts).step = .failed p' e) :
    Fails fs (opts.getD .unset) p name dir f e := by
  unfold loadMessage at h
  generalize opts.getD TableOptions.unset = o at h ⊢
  dsimp only at h
  split at h
  · -- the format is refused before any file is read
    next e' heq =>
    cases h
    split_ifs at heq with h1 h2 h3
    · cases heq
      exact .unknownExtension h1 h2
    · cases heq
      exact .unloadable (by simpa using h1) (by simpa using h3)
  · next g heq =>
    have hg : g = o.formatFor f ∧ g.loadable = true := by
      unfold TableOptions.formatFor
      split_ifs at heq with h1 h2 h3
      · cases heq
        exact ⟨by rw [if_pos h1], Format.loadable_of_ofPath h2⟩
      · cases heq
        exact ⟨by rw [if_neg h1], by simpa using h3⟩
    obtain ⟨rfl, hg⟩ := hg
    rw [tablePath_formatFor] at h
    have hplain : ∀ {p'' e'}, (runStep fs o p (tablePath name dir f (some o)) (o.formatFor f)).classify
        name (tablePath name dir f (some o)) = .failed p'' e' → Fails fs o p name dir f e' := by
      intro p'' e' hs
      obtain ⟨e'', hs', rfl⟩ := Step.classify_failed hs
      exact runStep_fails .main hg hs'
    split at h
    · exact hplain h
    · split at h
      · split at h
        · cases h
        · exact hplain h
      · next hne =>
        split at h
        · cases h
        · exact loadWithPatches_fails hg (by simpa using hne) h

end Inversion

/-! ## §3 — what each place reports -/

/-- The kind of a table-load failure is its own. -/
theorem loadKind?_load (k : LoadKind) (t q : String) (c : Option Fault) :
    (Fault.load k t q c).loadKind? = some k := by
  cases c <;> simp [Fault.loadKind?, Fault.firstLoad?, Fault.nodes]

/-- A table-load failure whose cause says nothing of table loads matches its own kind, when that
kind is one of the named ones, and no other. -/
theorem hasLoadKind_load {k k' : LoadKind} {t q : String} {c : Option Fault}
    (hc : ∀ x ∈ c, x.LoadFree) :
    (Fault.load k t q c).hasLoadKind k' = true ↔ k'.isNamed = true ∧ k' = k := by
  by_cases hk : k'.isNamed = true
  · cases c with
    | none =>
      simp only [Fault.hasLoadKind, Fault.nodes, hk, List.any_cons, List.any_nil, Bool.or_false,
        Bool.true_and, beq_iff_eq, true_and]
      exact eq_comm
    | some c =>
      -- the cause matches no named kind, so only the failure's own node can
      have hfree := (hc c rfl).hasLoadKind k'
      simp only [Fault.hasLoadKind, hk, Bool.true_and] at hfree
      simp only [Fault.hasLoadKind, Fault.nodes, hk, List.any_cons, hfree, Bool.or_false,
        Bool.true_and, beq_iff_eq, true_and]
      exact eq_comm
  · simp only [Fault.hasLoadKind, hk, Bool.false_and, Bool.false_eq_true, false_and]

namespace Fails

variable {fs : Files.Tree} {o : TableOptions} {p : Payload} {name dir : String} {f : Format}
  {e : Fault}

/-- Every place reports a table-load failure. -/
theorem isLoad (h : Fails fs o p name dir f e) : ∃ k t q c, e = .load k t q c := by
  cases h <;> exact ⟨_, _, _, _, rfl⟩

/-- **With the default load step, a load's failure is a missing file exactly when the reader
failed on a file the load reads**, and it is that failure. -/
theorem notFound_iff (h : Fails fs o p name dir f e) (hl : o.shared.loader = none) :
    e.loadKind? = some .notFound ↔ ∃ q g p₀ err, ReadsInto fs o p name dir f q g p₀ ∧
      readOctets fs o q = .error err ∧ e = .load .notFound name q (some err) := by
  constructor
  · intro hk
    cases h with
    | unread hq _ hr => exact ⟨_, _, _, _, hq, hr, rfl⟩
    | customLoad _ hl' => simp [hl] at hl'
    | customOther _ hl' => simp [hl] at hl'
    | _ => simp [loadKind?_load, patchExtensionFault] at hk
  · rintro ⟨q, g, p₀, err, -, -, rfl⟩
    exact loadKind?_load _ _ _ _

/-- **With the default load step, a load's failure is a parse failure exactly when the codec of
a file's format rejected the octets read into the payload the load reads it into, or a patch file
read did not merge over the payload held**, and it is that failure. -/
theorem parse_iff (h : Fails fs o p name dir f e) (hl : o.shared.loader = none) :
    e.loadKind? = some .parse ↔
      (∃ q g p₀ c bs p₁ msg, ReadsInto fs o p name dir f q g p₀ ∧ Codec.ofFormat g = .ok c ∧
        readOctets fs o q = .ok bs ∧ c.read o.ignoreUnknown bs p₀ = (p₁, some msg) ∧
        e = .load .parse name q (some (.text msg))) ∨
      (∃ cur q qs p₀ n msg, Reaches fs o p name dir f cur (q :: qs) ∧ cur.fresh = .ok p₀ ∧
        runStep fs o p₀ q (Format.ofPath q) = .filled n ∧ cur.mergeOver n = .error msg ∧
        e = .load .parse name q (some (.text msg))) := by
  constructor
  · intro hk
    cases h with
    | undecoded hq _ hc hr hd => exact .inl ⟨_, _, _, _, _, _, _, hq, hc, hr, hd, rfl⟩
    | unmerged hcur _ hf hn hm => exact .inr ⟨_, _, _, _, _, _, hcur, hf, hn, hm, rfl⟩
    | customLoad _ hl' => simp [hl] at hl'
    | customOther _ hl' => simp [hl] at hl'
    | _ => simp [loadKind?_load, patchExtensionFault] at hk
  · rintro (⟨q, g, p₀, c, bs, p₁, msg, -, -, -, -, rfl⟩ | ⟨cur, q, qs, p₀, n, msg, -, -, -, -, rfl⟩)
    all_goals exact loadKind?_load _ _ _ _

/-- **With the default load step and a reader whose failures say nothing of table loads, a
load's failure matches exactly one kind, a named one**. -/
theorem hasLoadKind_iff (h : Fails fs o p name dir f e) (hl : o.shared.loader = none)
    (hr : ∀ r, o.shared.reader = some r → r.Plain) :
    ∃ k, k.isNamed = true ∧ ∀ k', e.hasLoadKind k' = true ↔ k' = k := by
  have named : ∀ {k t q} {c : Option Fault}, k.isNamed = true → (∀ x ∈ c, x.LoadFree) →
      ∃ k', k'.isNamed = true ∧ ∀ k'', (Fault.load k t q c).hasLoadKind k'' = true ↔ k'' = k' := by
    intro k t q c hk hc
    refine ⟨k, hk, fun k'' => ?_⟩
    rw [hasLoadKind_load hc]
    constructor
    · exact fun h => h.2
    · rintro rfl
      exact ⟨hk, rfl⟩
  have text : ∀ msg : String, ∀ x ∈ some (Fault.text msg), x.LoadFree := by
    rintro msg x ⟨⟩
    exact Fault.loadFree_text msg
  cases h with
  | unknownExtension => exact named rfl (text _)
  | unloadable => exact named rfl (text _)
  | lastExtension => exact named rfl (text _)
  | patchExtension => exact named rfl (text _)
  | noFresh => exact named rfl (text _)
  | patchRule => exact named rfl (text _)
  | unread _ _ hread =>
    exact named rfl fun x hx => by cases hx; exact readOctets_plain hr fs _ hread
  | undecoded => exact named rfl (text _)
  | unmerged => exact named rfl (text _)
  | customLoad _ hl' => simp [hl] at hl'
  | customOther _ hl' => simp [hl] at hl'

end Fails

/-! ## §4 — the table's file read first -/

/-- Whether a load reads the table's file before any other: no refusal comes first, and the
table's file is read, alone or before the patches merged over it. -/
def ReadsTableFirst (fs : Files.Tree) (o : TableOptions) (name : String) (f : Format) : Prop :=
  (o.path ≠ "" → Format.ofPath o.path ≠ .unknown) ∧ (o.path = "" → f.loadable = true) ∧
    o.mode ≠ .onlyPatch ∧
    (o.mode = .onlyMain ∨ patchFiles fs name (o.formatFor f) o = [] ∨ o.patch = .merge)

section First

variable {fs : Files.Tree} {o : TableOptions} {p : Payload} {name dir : String} {f : Format}

/-- With no refusal, the format chosen is the one `formatFor` names, and it can be loaded. -/
theorem ReadsTableFirst.loadable (h : ReadsTableFirst fs o name f) :
    (o.formatFor f).loadable = true := by
  unfold TableOptions.formatFor
  split_ifs with hp
  · exact Format.loadable_of_ofPath (h.1 hp)
  · exact h.2.1 (by simpa using hp)

/-- The default load step's reader failing is the step's failure. -/
theorem loadByPath_unread {p₀ : Payload} {q : String} {g : Format} (hg : g.loadable = true)
    {err : Fault} (hr : readOctets fs o q = .error err) :
    loadByPath fs p₀ q g (some o) = .failed p₀ (.load .notFound "" q (some err)) := by
  obtain ⟨c, hc⟩ := Codec.ofFormat_of_loadable hg
  unfold loadByPath
  simp only [hg, Bool.not_true, Bool.false_eq_true, if_false, hc, hr]

/-- The codec of the default load step rejecting the octets is the step's failure. -/
theorem loadByPath_undecoded {p₀ p₁ : Payload} {q msg : String} {g : Format} {c : Codec}
    {bs : List UInt8} (hg : g.loadable = true) (hc : Codec.ofFormat g = .ok c)
    (hr : readOctets fs o q = .ok bs) (hd : c.read o.ignoreUnknown bs p₀ = (p₁, some msg)) :
    loadByPath fs p₀ q g (some o) = .failed p₁ (.load .parse "" q (some (.text msg))) := by
  unfold loadByPath
  simp only [hg, Bool.not_true, Bool.false_eq_true, if_false, hc, hr, hd]

/-- **A load that reads the table's file first fails as that read fails.** -/
theorem loadMessage_of_main_failed (hfirst : ReadsTableFirst fs o name f) {p' : Payload}
    {e : Fault} (hs : (runStep fs o p (tablePath name dir f (some o)) (o.formatFor f)).classify
      name (tablePath name dir f (some o)) = .failed p' e) :
    (loadMessage fs p name dir f (some o)).step = .failed p' e := by
  obtain ⟨hpath, hload, hmode, hfirst⟩ := hfirst
  have hchosen : (if o.path ≠ "" then
      (if Format.ofPath o.path = .unknown then
        (.error (.load .unknownFormat name o.path (some (.text ("unrecognized extension " ++
          Text.Quoted.quote (Files.Path.ext o.path))))) : Except Fault Format)
      else .ok (Format.ofPath o.path))
    else if !f.loadable then
      .error (.load .illegalParam name "" (some (.text ("cannot load format " ++ f.name))))
    else .ok f) = .ok (o.formatFor f) := by
    unfold TableOptions.formatFor
    split_ifs with h1 h2 h3 <;> simp_all
  unfold loadMessage
  simp only [Option.getD_some, hchosen, tablePath_formatFor]
  by_cases honly : o.mode = Mode.onlyMain
  · simpa [honly] using hs
  · rcases hfirst with h | hnone | hmerge
    · exact absurd h honly
    · simpa [honly, hnone, hmode] using hs
    · -- patches are merged over the table's file, whose read failed
      by_cases hnone : patchFiles fs name (o.formatFor f) o = []
      · simpa [honly, hnone, hmode] using hs
      · have hrep : o.patch ≠ PatchRule.replace := by rw [hmerge]; decide
        simp [honly, hnone, loadWithPatches, if_neg hrep, if_pos hmerge, hmode, hs]

end First

/-! ## §5 — classifying a load's failure -/

/-- **How a table's load fails.** For every file tree, payload, table name, directory, format and
options (no options behave as the empty ones), with any reader and load step: a failed load reports
one of the places of `Fails`, so its fault is a table-load failure naming the table (a custom load
step's own table-load failure keeps its kind, file and cause, and its name when it has one; any
other fault of a custom step becomes a parse failure of the file wrapping it) and naming the table's
file or the patch file at fault (none when the format was refused), and its kind is what `loadKind?`
reads. With the default load step:

* the fault is a missing file exactly when the reader failed on a file the load reads, and a parse
  failure exactly when the codec of a file's format rejected its octets, read into the payload the
  load reads that file into, or a patch file did not merge over the payload held;
* when the load reads the table's file first, the reader failing on it, or the codec rejecting its
  octets, is the load's failure;
* with a reader whose failures say nothing of table loads, the fault matches exactly one named
  kind. -/
theorem loadMessage_failure_classified (fs : Files.Tree) (p : Payload) (name dir : String)
    (f : Format) (o : TableOptions) {p' : Payload} {e : Fault}
    (h : (loadMessage fs p name dir f (some o)).step = .failed p' e) :
    Fails fs o p name dir f e ∧
      (∃ k t q c, e = .load k t q c ∧ e.loadKind? = some k) ∧
      (o.shared.loader = none →
        (e.loadKind? = some .notFound ↔ ∃ q g p₀ err, ReadsInto fs o p name dir f q g p₀ ∧
          readOctets fs o q = .error err ∧ e = .load .notFound name q (some err)) ∧
        (e.loadKind? = some .parse ↔
          (∃ q g p₀ c bs p₁ msg, ReadsInto fs o p name dir f q g p₀ ∧ Codec.ofFormat g = .ok c ∧
            readOctets fs o q = .ok bs ∧ c.read o.ignoreUnknown bs p₀ = (p₁, some msg) ∧
            e = .load .parse name q (some (.text msg))) ∨
          (∃ cur q qs p₀ n msg, Reaches fs o p name dir f cur (q :: qs) ∧ cur.fresh = .ok p₀ ∧
            runStep fs o p₀ q (Format.ofPath q) = .filled n ∧ cur.mergeOver n = .error msg ∧
            e = .load .parse name q (some (.text msg)))) ∧
        (ReadsTableFirst fs o name f →
          (∀ err, readOctets fs o (tablePath name dir f (some o)) = .error err →
            e = .load .notFound name (tablePath name dir f (some o)) (some err)) ∧
          ∀ c bs p₁ msg, Codec.ofFormat (o.formatFor f) = .ok c →
            readOctets fs o (tablePath name dir f (some o)) = .ok bs →
            c.read o.ignoreUnknown bs p = (p₁, some msg) →
            e = .load .parse name (tablePath name dir f (some o)) (some (.text msg))) ∧
        ((∀ r, o.shared.reader = some r → r.Plain) →
          ∃ k, k.isNamed = true ∧ ∀ k', e.hasLoadKind k' = true ↔ k' = k)) := by
  have hf := loadMessage_fails fs p name dir f (some o) h
  obtain ⟨k, t, q, c, rfl⟩ := hf.isLoad
  refine ⟨hf, ⟨k, t, q, c, rfl, loadKind?_load _ _ _ _⟩, fun hl => ⟨hf.notFound_iff hl,
    hf.parse_iff hl, fun hfirst => ⟨fun err hr => ?_, fun c' bs p₁ msg hc hr hd => ?_⟩,
    hf.hasLoadKind_iff hl⟩⟩
  · -- the reader's failure on the table's file is the load's
    have hs : (runStep fs o p (tablePath name dir f (some o)) (o.formatFor f)).classify name
        (tablePath name dir f (some o)) = .failed p (.load .notFound name
          (tablePath name dir f (some o)) (some err)) := by
      rw [runStep, hl]
      simp only [loadByPath_unread hfirst.loadable hr, Step.classify, classify_load, if_true]
    have := (loadMessage_of_main_failed hfirst hs).symm.trans h
    simp only [Step.failed.injEq] at this
    exact this.2.symm
  · -- the codec's rejection of the table's file is the load's
    have hs : (runStep fs o p (tablePath name dir f (some o)) (o.formatFor f)).classify name
        (tablePath name dir f (some o)) = .failed p₁ (.load .parse name
          (tablePath name dir f (some o)) (some (.text msg))) := by
      rw [runStep, hl]
      simp only [loadByPath_undecoded hfirst.loadable hc hr hd, Step.classify, classify_load,
        if_true]
    have := (loadMessage_of_main_failed hfirst hs).symm.trans h
    simp only [Step.failed.injEq] at this
    exact this.2.symm

/-- The table's file is not there: the load fails as a missing file naming it, the only named kind
it matches. -/
theorem missing_table_file_classified :
    ∃ err, (loadMessage .empty (.ofRecord .heroes) "HeroConf" "d" .json (some .unset)).step =
        .failed (.ofRecord .heroes) (.load .notFound "HeroConf" "d/HeroConf.json" (some err)) ∧
      ∀ k', (Fault.load .notFound "HeroConf" "d/HeroConf.json" (some err)).hasLoadKind k' = true ↔
        k' = .notFound := by
  have hpath : tablePath "HeroConf" "d" .json (some TableOptions.unset) = "d/HeroConf.json" := by
    decide +kernel
  have hmissing : (readOctets .empty .unset "d/HeroConf.json").toOption = none := by
    decide +kernel
  obtain ⟨err, hr⟩ : ∃ err, readOctets .empty .unset "d/HeroConf.json" = .error err := by
    cases hread : readOctets .empty .unset "d/HeroConf.json" with
    | error err => exact ⟨err, rfl⟩
    | ok bs =>
      rw [hread] at hmissing
      cases hmissing
  have hfirst : ReadsTableFirst .empty .unset "HeroConf" .json :=
    ⟨fun h => absurd rfl h, fun _ => rfl, by decide, .inr (.inl (by decide +kernel))⟩
  have hs : (runStep .empty .unset (.ofRecord .heroes) (tablePath "HeroConf" "d" .json (some .unset))
      (TableOptions.unset.formatFor .json)).classify "HeroConf"
        (tablePath "HeroConf" "d" .json (some .unset)) =
      .failed (.ofRecord .heroes) (.load .notFound "HeroConf" "d/HeroConf.json" (some err)) := by
    rw [hpath, runStep]
    simp only [loadByPath_unread hfirst.loadable hr, Step.classify]
    rfl
  have h := loadMessage_of_main_failed hfirst hs
  obtain ⟨-, -, hdefault⟩ := loadMessage_failure_classified _ _ _ _ _ _ h
  obtain ⟨k, -, hk⟩ := (hdefault rfl).2.2.2 fun r hr => by cases hr
  -- the one kind it matches is its own
  have hfree : ∀ x ∈ some err, x.LoadFree := fun x hx => by
    cases hx
    exact readOctets_plain (fun r hr => by cases hr) .empty _ hr
  obtain rfl : k = .notFound := ((hk .notFound).mp ((hasLoadKind_load hfree).mpr ⟨rfl, rfl⟩)).symm
  exact ⟨err, h, hk⟩

/-- A custom load step that reports a missing file without naming one: the load's failure names
no file, though the table's file is `d/HeroConf.json`. -/
theorem custom_missing_file_names_no_file :
    (loadMessage .empty .none "HeroConf" "d" .json
        (some { TableOptions.unset with shared := { Shared.unset with
          loader := some fun p _ _ => .failed p (.load .notFound "" "" (some (.text "nf"))) } })).step =
      .failed .none (.load .notFound "HeroConf" "" (some (.text "nf"))) ∧
    tablePath "HeroConf" "d" .json (some TableOptions.unset) = "d/HeroConf.json" :=
  ⟨rfl, by decide +kernel⟩

end Load

end ConfigTables
