import Mathlib
import ConfigTables.Proofs.PathExtension
import ConfigTables.Load.Message
/-!
# What reading a table can fail with

Loading a table rejects some options before any file is read: an explicit file or patch file
whose extension names no format, a format that cannot be loaded, a patch rule it does not know,
a payload it cannot read patches into. Under options that rule all of these out, reading a table
fails only as reading files fails: a file that is not there, or one that does not parse.

* `TableOptions.Readable`: such options. The default load step, a reader whose failures are
  plain, an explicit file and patch files with known extensions, and a patch rule that is merge
  or replace.
* `Fault.IsRead`, `Step.Reads`: a missing or unparsable file, with no other table-load failure
  under it; a step that filled a payload behind a reference or failed so.
* `loadMessage_reads`: **under readable options a table's load step reads**, for every payload
  behind a reference, directory, format that can be loaded and table name with no slash. Patch
  files found in patch directories have the table's own format (`Format.ofPath_join`), so they are
  never rejected either.
-/

namespace ConfigTables

/-! ## §1 — payloads behind a reference -/

namespace Payload

/-- Whether a payload is held behind a reference, so that a patch can be read into a fresh one. -/
def byRef : Payload → Bool
  | .record _ _ | .message _ | .dict _ => true
  | _ => false

/-- A payload behind a reference has a fresh payload, itself behind a reference. -/
theorem fresh_of_byRef {p : Payload} (h : p.byRef = true) :
    ∃ q, p.fresh = .ok q ∧ q.byRef = true := by
  cases p <;> simp_all [byRef, fresh, ofRecord]

theorem readJson_byRef (strict : Bool) (bs : List UInt8) {p : Payload} (h : p.byRef = true) :
    (p.readJson strict bs).1.byRef = true := by
  cases p with
  | message o => rfl
  | record r fs =>
    simp only [readJson]
    split <;> rfl
  | dict es =>
    simp only [readJson]
    split <;> rfl
  | dictValue _ | text _ | none => cases h

theorem readBinary_byRef (bs : List UInt8) {p : Payload} (h : p.byRef = true) :
    (p.readBinary bs).1.byRef = true := by
  cases p with
  | message o =>
    simp only [readBinary]
    split <;> rfl
  | record r fs =>
    simp only [readBinary]
    split <;> rfl
  | dict es =>
    simp only [readBinary]
    split <;> rfl
  | dictValue _ | text _ | none => cases h

/-- Merging a patch over a payload behind a reference leaves one behind a reference. -/
theorem mergeOver_byRef {dst src merged : Payload} (h : dst.byRef = true)
    (hm : dst.mergeOver src = .ok merged) : merged.byRef = true := by
  unfold mergeOver at hm
  split at hm
  · cases hm
    rfl
  · simp only [bind, Except.bind] at hm
    split at hm <;> cases hm
    rfl
  · simp only [bind, Except.bind] at hm
    split at hm <;> cases hm
    rfl
  · cases hm
    exact h

end Payload

/-- **Reading keeps a payload behind a reference**, in either codec, whatever the octets. -/
theorem Codec.read_byRef (c : Codec) (ign : Bool) (bs : List UInt8) {p : Payload}
    (h : p.byRef = true) : (c.read ign bs p).1.byRef = true := by
  cases c with
  | json => exact Payload.readJson_byRef _ bs h
  | binary => exact Payload.readBinary_byRef bs h

/-- A loadable format has a codec. -/
theorem Codec.ofFormat_of_loadable {f : Format} (hf : f.loadable = true) :
    ∃ c, Codec.ofFormat f = .ok c := by
  cases f with
  | json => exact ⟨_, rfl⟩
  | binary => exact ⟨_, rfl⟩
  | unknown | text => cases hf

/-! ## §2 — failures of reading a file -/

/-- A fault holds no table-load failure exactly when its first one is none. -/
theorem Fault.firstLoad?_eq_none_iff (e : Fault) :
    e.firstLoad? = none ↔ ∀ k t p c, Fault.load k t p c ∉ e.nodes := by
  simp only [Fault.firstLoad?, List.findSome?_eq_none_iff]
  constructor
  · intro h k t p c hm
    simpa using h _ hm
  · intro h x hx
    cases x <;> first | rfl | exact absurd hx (h _ _ _ _)

/-- A fault that says nothing of table loads: no node of it is a table-load failure or the
condition of a load kind. -/
def Fault.LoadFree (e : Fault) : Prop :=
  ∀ n ∈ e.nodes, (∀ k t p c, n ≠ .load k t p c) ∧ ∀ k, n ≠ .sentinel (.loadKind k)

/-- A plain message says nothing of table loads. -/
theorem Fault.loadFree_text (m : String) : (Fault.text m).LoadFree := by
  intro n hn
  simp only [Fault.nodes, List.mem_singleton] at hn
  subst hn
  exact ⟨fun _ _ _ _ => Fault.noConfusion, fun _ => Fault.noConfusion⟩

/-- A fault that says nothing of table loads holds no table-load failure. -/
theorem Fault.LoadFree.firstLoad? {e : Fault} (h : e.LoadFree) : e.firstLoad? = none :=
  (Fault.firstLoad?_eq_none_iff e).mpr fun k t p c hm => (h _ hm).1 k t p c rfl

/-- A fault that says nothing of table loads matches no load kind. -/
theorem Fault.LoadFree.hasLoadKind {e : Fault} (h : e.LoadFree) (k : LoadKind) :
    e.hasLoadKind k = false := by
  simp only [Fault.hasLoadKind, Bool.and_eq_false_iff, List.any_eq_false]
  refine .inr fun n hn => ?_
  obtain ⟨hload, hsent⟩ := h n hn
  -- only a table-load failure or a load condition could match
  rcases n with _ | ⟨_ | _ | _ | _ | _ | _ | _ | _ | k'⟩ | _ | ⟨k', t, p, c⟩ | _ | _ | _ | _
  all_goals first | exact absurd rfl (hload _ _ _ _) | exact absurd rfl (hsent _) | simp

/-- A failure to read a table's file: the file is not there or does not parse, and nothing under
it says anything of table loads. -/
def Fault.IsRead : Fault → Prop
  | .load k _ _ c => (k = .notFound ∨ k = .parse) ∧ ∀ x ∈ c, x.LoadFree
  | _ => False

/-- A table-load failure is its own first. -/
theorem Load.firstLoadFault?_load (k : LoadKind) (t p : String) (c : Option Fault) :
    Load.firstLoadFault? (.load k t p c) = some (.load k t p c) := by
  cases c <;> simp [Load.firstLoadFault?, Fault.nodes]

/-- Naming a table-load failure for a table keeps its kind, file and cause. -/
theorem Load.classify_load (name path : String) (k : LoadKind) (t p : String) (c : Option Fault) :
    Load.classify name path (.load k t p c) = .load k (if t = "" then name else t) p c := by
  simp only [Load.classify, Load.firstLoadFault?_load]
  split <;> rfl

theorem Fault.IsRead.classify {e : Fault} (h : e.IsRead) (name path : String) :
    (Load.classify name path e).IsRead := by
  cases e with
  | load k t p c =>
    rw [Load.classify_load]
    exact h
  | _ => cases h

namespace Load

/-- A load step that filled a payload behind a reference, or failed reading a file. -/
def Step.Reads : Step → Prop
  | .filled p => p.byRef = true
  | .failed _ e => e.IsRead
  | .panicked _ => False

theorem Step.Reads.classify {s : Step} (h : s.Reads) (name path : String) :
    (s.classify name path).Reads := by
  cases s with
  | filled p => exact h
  | failed p e => exact Fault.IsRead.classify h name path
  | panicked v => cases h

/-! ## §3 — options a table can be read with -/

/-- A reader whose failures say nothing of table loads. -/
def Reader.Plain (r : Reader) : Prop :=
  ∀ path e, r path = .error e → e.LoadFree

/-- Options that reject nothing before a file is read: the default load step, a plain reader if
any, an explicit file and patch files whose extensions name a format, and a patch rule that is
merge or replace. -/
structure TableOptions.Readable (o : TableOptions) : Prop where
  loader : o.shared.loader = none
  reader : ∀ r, o.shared.reader = some r → r.Plain
  path : o.path ≠ "" → Format.ofPath o.path ≠ .unknown
  patchPaths : ∀ q ∈ o.patchPaths, Format.ofPath q ≠ .unknown
  patch : o.patch = .merge ∨ o.patch = .replace

/-- Reading octets fails plainly: through the reader, or as the file tree does. -/
theorem readOctets_plain {o : TableOptions} (hr : ∀ r, o.shared.reader = some r → r.Plain)
    (fs : Files.Tree) (path : String) {e : Fault} (he : readOctets fs o path = .error e) :
    e.LoadFree := by
  unfold readOctets at he
  split at he
  · next r hr' => exact hr r hr' path e he
  · cases hread : fs.read path with
    | error x =>
      rw [hread] at he
      cases he
      exact Fault.loadFree_text _
    | ok bs =>
      rw [hread] at he
      cases he

/-! ## §4 — the load steps -/

/-- **The default load step reads**: a loadable format has a codec, so the step either fills
the payload or fails because the file is missing or does not parse. -/
theorem loadByPath_reads {f : Format} (hf : f.loadable = true) {o : TableOptions}
    (hr : ∀ r, o.shared.reader = some r → r.Plain) (fs : Files.Tree) {p : Payload}
    (hp : p.byRef = true) (path : String) : (loadByPath fs p path f (some o)).Reads := by
  obtain ⟨c, hc⟩ := Codec.ofFormat_of_loadable hf
  unfold loadByPath
  simp only [hf, Bool.not_true, Bool.false_eq_true, if_false, hc]
  rcases hread : readOctets fs o path with e | bs
  · exact ⟨.inl rfl, fun x hx => by cases hx; exact readOctets_plain hr fs path hread⟩
  · dsimp only
    have hbr := c.read_byRef o.ignoreUnknown bs hp
    rcases hres : c.read o.ignoreUnknown bs p with ⟨p', _ | e⟩
    · rw [hres] at hbr
      exact hbr
    · exact ⟨.inr rfl, fun x hx => by cases hx; exact Fault.loadFree_text _⟩

theorem runStep_reads {o : TableOptions} (ho : o.Readable) {f : Format} (hf : f.loadable = true)
    (fs : Files.Tree) {p : Payload} (hp : p.byRef = true) (path : String) :
    (runStep fs o p path f).Reads := by
  unfold runStep
  rw [ho.loader]
  exact loadByPath_reads hf ho.reader fs hp path

/-- **Merging patches of known formats reads**: each patch is read into a fresh payload, which a
payload behind a reference always has, and merged over the payload, which stays behind a
reference. -/
theorem mergePatches_reads {o : TableOptions} (ho : o.Readable) (fs : Files.Tree) (name : String) :
    ∀ (qs : List String) {cur : Payload}, cur.byRef = true →
      (∀ q ∈ qs, Format.ofPath q ≠ .unknown) → (mergePatches fs o name cur qs).Reads
  | [], cur, hcur, _ => hcur
  | q :: qs, cur, hcur, hq => by
    have hpf := hq q (by simp)
    obtain ⟨next, hnext, hnextRef⟩ := Payload.fresh_of_byRef hcur
    have hstep := runStep_reads ho (Format.loadable_of_ofPath hpf) fs hnextRef q
    simp only [mergePatches, if_neg hpf, hnext]
    rcases hs : runStep fs o next q (Format.ofPath q) with n | ⟨_, e⟩ | v
    · rw [hs] at hstep
      dsimp only
      rcases hm : cur.mergeOver n with err | merged
      · exact ⟨.inr rfl, fun x hx => by cases hx; exact Fault.loadFree_text _⟩
      · exact mergePatches_reads ho fs name qs (Payload.mergeOver_byRef hcur hm)
          (fun q' hq' => hq q' (by simp [hq']))
    · rw [hs] at hstep
      exact Fault.IsRead.classify hstep name q
    · rw [hs] at hstep
      cases hstep

/-- Loading with patches of known formats reads, under either patch rule. -/
theorem loadWithPatches_reads {o : TableOptions} (ho : o.Readable) (fs : Files.Tree)
    {p : Payload} (hp : p.byRef = true) (name path : String) {f : Format} (hf : f.loadable = true)
    {patches : List String} (hne : patches ≠ []) (hq : ∀ q ∈ patches, Format.ofPath q ≠ .unknown) :
    (loadWithPatches fs o p name path f patches).Reads := by
  unfold loadWithPatches
  by_cases hrep : o.patch = PatchRule.replace
  · -- the last patch alone is read
    have hlast : patches.getLastD "" ∈ patches := by
      rw [List.getLastD_eq_getLast?, List.getLast?_eq_some_getLast hne]
      exact List.getLast_mem hne
    have hpf := hq _ hlast
    simp only [if_pos hrep, if_neg hpf]
    exact (runStep_reads ho (Format.loadable_of_ofPath hpf) fs hp _).classify name _
  · have hmerge : o.patch = PatchRule.merge := ho.patch.resolve_right hrep
    simp only [if_neg hrep, if_pos hmerge]
    -- the main file is read first unless only patches are wanted
    have hstart : (if o.mode ≠ Mode.onlyPatch then (runStep fs o p path f).classify name path
        else .filled p).Reads := by
      split
      · exact (runStep_reads ho hf fs hp path).classify name path
      · exact hp
    split
    · next cur heq =>
      rw [heq] at hstart
      exact mergePatches_reads ho fs name patches hstart hq
    · exact hstart

/-- **Every patch file a table finds has a known format**: an explicit one by the options, one
from a patch directory because it is named with the table's own format. -/
theorem patchFiles_known {o : TableOptions} (ho : o.Readable) (fs : Files.Tree) {name : String}
    (hname : '/' ∉ name.toList) {f : Format} (hf : f.loadable = true) :
    ∀ q ∈ patchFiles fs name f o, Format.ofPath q ≠ .unknown := by
  intro q hq
  unfold patchFiles at hq
  have hcand := (List.mem_filter.mp hq).1
  split at hcand
  · obtain ⟨d, -, rfl⟩ := List.mem_map.mp hcand
    rw [Format.ofPath_join hf d hname]
    rintro rfl
    cases hf
  · exact ho.patchPaths q hcand

/-- **Under readable options a table's load reads**: for every payload behind a reference,
directory, loadable format and name with no slash, the load fills the payload or fails because a
file is missing or does not parse. -/
theorem loadMessage_reads {o : TableOptions} (ho : o.Readable) (fs : Files.Tree) {p : Payload}
    (hp : p.byRef = true) {name : String} (hname : '/' ∉ name.toList) (dir : String) {f : Format}
    (hf : f.loadable = true) : (loadMessage fs p name dir f (some o)).step.Reads := by
  unfold loadMessage
  simp only [Option.getD_some]
  split
  · next e heq =>
    -- readable options name a known format for the explicit file, and the format is loadable
    exfalso
    split_ifs at heq with h1 h2 h3
    · exact ho.path h1 h2
    · simp [hf] at h3
  · next g heq =>
    have hg : g.loadable = true := by
      split_ifs at heq with h1 h2 h3
      · cases heq
        exact Format.loadable_of_ofPath h2
      · cases heq
        exact hf
    have hplain := (runStep_reads ho hg fs hp (tablePath name dir g (some o))).classify name
      (tablePath name dir g (some o))
    split
    · exact hplain
    · split
      · split
        · exact hp
        · exact hplain
      · next hpatches =>
        have hreads := loadWithPatches_reads ho fs hp name (tablePath name dir g (some o)) hg
          (by simpa using hpatches) (patchFiles_known ho fs hname hg)
        split
        · next q heq' =>
          rw [heq'] at hreads
          exact hreads
        · exact hreads

end Load

end ConfigTables
