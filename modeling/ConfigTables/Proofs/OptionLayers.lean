import Mathlib
import ConfigTables.Proofs.LoadSettings
/-!
# Layered options, setter by setter

Options are built by applying setters in order over empty options (`Options.ofSetters`), and
the options of one table lay its override over the global options (`Options.forTable`). This
module says what comes out in terms of the setter list alone:

* every global knob is the value of the last setter of that knob (`Setter.lastShared`);
* the override of a table is the one the last `table` setter of its name left (none when that
  setter removed it), pointed at the file of the last `path` setter of its name that comes
  after it, if any (`Setter.lastOverride`);
* a table's options take each shared knob from the override where it is set there (patch
  directories: where it lists some) and from the global layer elsewhere, and the file, patch
  files and patch rule from the override alone, empty without one (`layered`).

`forTable_ofSetters_eq_layered` puts the three together. Options are plain values, so
applying the same setters again gives the same options: a reload that replays the setters of
its load loads every table with the same options.
-/

namespace ConfigTables.Load

/-- One table's options from a global layer and the table's override, knob by knob: a shared
knob the override sets hides the global one (patch directories only when the override lists
some); the file, patch files and patch rule are the override's, and empty without one. -/
def layered (g : Shared) (mo : Option TableOptions) : TableOptions :=
  ⟨⟨(mo.bind (·.shared.ignoreUnknown)).or g.ignoreUnknown,
    (mo.bind (·.shared.reader)).or g.reader,
    (mo.bind (·.shared.loader)).or g.loader,
    ((mo.map (·.shared.patchDirs)).filter (!·.isEmpty)).getD g.patchDirs,
    (mo.bind (·.shared.mode)).or g.mode⟩,
    (mo.map (·.path)).getD "", (mo.map (·.patchPaths)).getD [],
    (mo.map (·.patch)).getD PatchRule.merge⟩

/-- The options of a table are its override layered over the global options. -/
theorem Options.forTable_eq_layered (o : Options) (n : String) :
    o.forTable n = layered o.shared (o.override? n) := by
  rcases h : o.override? n with _ | mo
  · rw [Options.forTable_of_override?_none h]
    rfl
  · rw [Options.forTable_of_override?_some h]
    cases hd : mo.shared.patchDirs.isEmpty <;> simp [layered, hd, Option.filter_some]

namespace Setter

/-! ## What each setter sets -/

/-- The unknown-field switch a setter sets, if it sets it. -/
def ignoreUnknown? : Setter → Option Bool
  | .ignoreUnknown b => some b
  | _ => none

/-- The reader a setter sets, if it sets one. -/
def reader? : Setter → Option Reader
  | .reader r => some r
  | _ => none

/-- The load step a setter sets, if it sets one. -/
def loader? : Setter → Option Loader
  | .loader l => some l
  | _ => none

/-- The patch directories a setter sets, if it sets them. -/
def patchDirs? : Setter → Option (List String)
  | .patchDirs ds => some ds
  | _ => none

/-- The mode a setter sets, if it sets one. -/
def mode? : Setter → Option Mode
  | .mode m => some m
  | _ => none

/-- The override a setter gives table `n` when it replaces or removes it. -/
def table? (n : String) : Setter → Option (Option TableOptions)
  | .table m mo => if m = n then some mo else none
  | _ => none

/-- The file a setter points table `n` at. -/
def path? (n : String) : Setter → Option String
  | .path m p => if m = n then some p else none
  | _ => none

/-- The value the last setter of a knob gives it. -/
def last {α : Type} (knob : Setter → Option α) (ss : List Setter) : Option α :=
  ss.reverse.findSome? knob

/-- The global knobs the setters leave: each is the value of its last setter, and there are
no patch directories when no setter sets them. -/
def lastShared (ss : List Setter) : Shared :=
  ⟨last ignoreUnknown? ss, last reader? ss, last loader? ss, (last patchDirs? ss).getD [],
    last mode? ss⟩

/-- The override of table `n` the setters leave: the one the last `table n` setter gave (none
when it removed the override, or when there is no such setter), pointed at the file of the last
`path n` setter after it, if any; a `path` setter with no override to change starts from an
empty one. -/
def lastOverride (n : String) (ss : List Setter) : Option TableOptions :=
  let base := (last (table? n) ss).join
  let later := ss.reverse.takeWhile (fun s => (table? n s).isNone)
  (later.findSome? (path? n)).elim base
    (fun p => some { base.getD TableOptions.unset with path := p })

/-! ## One setter more -/

theorem last_append_singleton {α : Type} (knob : Setter → Option α) (ss : List Setter)
    (s : Setter) : last knob (ss ++ [s]) = (knob s).or (last knob ss) := by
  cases h : knob s <;> simp [last, h]

theorem lastShared_append_singleton (ss : List Setter) (s : Setter) :
    lastShared (ss ++ [s]) =
      ⟨(ignoreUnknown? s).or (last ignoreUnknown? ss), (reader? s).or (last reader? ss),
        (loader? s).or (last loader? ss), ((patchDirs? s).or (last patchDirs? ss)).getD [],
        (mode? s).or (last mode? ss)⟩ := by
  simp only [lastShared, last_append_singleton]

/-- A setter that neither replaces nor points table `n` leaves its override alone. -/
theorem lastOverride_append_of_untouched {n : String} (ss : List Setter) {s : Setter}
    (ht : table? n s = none) (hp : path? n s = none) :
    lastOverride n (ss ++ [s]) = lastOverride n ss := by
  simp [lastOverride, last, ht, hp]

/-- A `table n` setter decides the override of `n` on its own. -/
theorem lastOverride_append_table (n : String) (ss : List Setter) (mo : Option TableOptions) :
    lastOverride n (ss ++ [.table n mo]) = mo := by
  simp [lastOverride, last_append_singleton, table?]

/-- A `path n` setter points the override of `n` as it stands at its file. -/
theorem lastOverride_append_path (n : String) (ss : List Setter) (p : String) :
    lastOverride n (ss ++ [.path n p]) =
      some { (lastOverride n ss).getD TableOptions.unset with path := p } := by
  have ht : table? n (.path n p) = none := rfl
  have hp : path? n (.path n p) = some p := by simp [path?]
  -- the override as it stands may already carry an earlier path; the new one replaces it
  rcases h : (ss.reverse.takeWhile (fun s => (table? n s).isNone)).findSome? (path? n) with
    _ | p₀ <;>
  simp [lastOverride, last_append_singleton, ht, hp, h]

end Setter

/-! ## Every setter list -/

namespace Options

open Setter

theorem ofSetters_append_singleton (ss : List Setter) (s : Setter) :
    ofSetters (ss ++ [s]) = s.apply (ofSetters ss) := by
  simp [ofSetters, List.foldl_append]

/-- One setter changes the global knobs as the last-setter rule says. -/
theorem shared_apply {o : Options} {ss : List Setter} (h : o.shared = lastShared ss)
    (s : Setter) : (s.apply o).shared = lastShared (ss ++ [s]) := by
  rw [lastShared_append_singleton]
  cases s <;>
    simp [Setter.apply, h, lastShared, ignoreUnknown?, reader?, loader?, patchDirs?, mode?]

/-- One setter changes the override of `n` as the last-setter rule says. -/
theorem override?_apply {o : Options} {ss : List Setter} {n : String}
    (h : o.override? n = lastOverride n ss) (s : Setter) :
    (s.apply o).override? n = lastOverride n (ss ++ [s]) := by
  cases s with
  | table m mo =>
    by_cases hm : m = n
    · subst hm
      rw [lastOverride_append_table]
      exact override?_setOverride_self o m mo
    · rw [lastOverride_append_of_untouched ss (by simp [table?, hm]) (by simp [path?]), ← h]
      exact override?_setOverride_of_ne o hm mo
  | path m p =>
    by_cases hm : m = n
    · subst hm
      rw [lastOverride_append_path, ← h]
      exact override?_setOverride_self o m _
    · rw [lastOverride_append_of_untouched ss (by simp [table?]) (by simp [path?, hm]), ← h]
      exact override?_setOverride_of_ne o hm _
  -- the other setters change global knobs only
  | ignoreUnknown | reader | loader | patchDirs | mode =>
    rw [lastOverride_append_of_untouched ss (by simp [table?]) (by simp [path?]), ← h]
    rfl

/-- The global options built from setters are the last-setter values. -/
theorem shared_ofSetters (ss : List Setter) : (ofSetters ss).shared = lastShared ss := by
  induction ss using List.reverseRecOn with
  | nil => rfl
  | append_singleton ss s ih => rw [ofSetters_append_singleton, shared_apply ih]

/-- The override of a table built from setters is the last-setter one. -/
theorem override?_ofSetters (ss : List Setter) (n : String) :
    (ofSetters ss).override? n = lastOverride n ss := by
  induction ss using List.reverseRecOn with
  | nil => rfl
  | append_singleton ss s ih => rw [ofSetters_append_singleton, override?_apply ih]

/-- **The options of a table, from the setters alone.** For every setter list and table name,
the options the table loads with are its last override layered over the last global knobs:
each global knob is its last setter's value; the override is the last `table` setter's for
that name (absent when it removed it), pointed at the file of every later `path` setter for
that name in turn; unknown fields, reader, load step and mode come from the override when it
sets them and from the global layer otherwise, patch directories from the override when it
lists some, and the file, patch files and patch rule from the override alone. -/
theorem forTable_ofSetters_eq_layered (ss : List Setter) (n : String) :
    (ofSetters ss).forTable n = layered (lastShared ss) (lastOverride n ss) := by
  rw [forTable_eq_layered, shared_ofSetters, override?_ofSetters]

end Options

end ConfigTables.Load
