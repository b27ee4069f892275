import Mathlib
import ConfigTables.Config.Settings
/-!
# From settings to the options of each table

The settings give global load options (unknown fields, mode, patch directories) and an entry per
table key. `Settings.loadSetters` turns them into setters for a list of table names: the global
options first, then one override per entry, set under the first name equal to the entry's key
ignoring case, or under the key itself when no name is.

* `Options.foldl_setOverride_of_forall_ne`, `Options.foldl_setOverride_of_mem`: overrides set
  one after another leave a name alone when none targets it, and give it the options of those
  that do when they all agree; the order does not matter then.
* `Settings.override?_loadSetters`: every override the settings set is an entry's, under the
  name the entry was matched to.
* `loadSetters_forTable`: **the options a table loads with.** When the keys are pairwise
  distinct ignoring case, a name of the list takes its mode and patch directories from the
  global settings, and its file, patch files, patch rule and unknown-field switch from the entry
  whose key it is the first name to match, or the global and empty ones when it matches none;
  the order of the entries plays no part.
-/

namespace ConfigTables

/-! ## §1 — texts equal ignoring case -/

namespace Text.CaseMap

theorem equalFold_iff (a b : String) :
    equalFold a b = true ↔ a.toList.map fold = b.toList.map fold := by
  simp [equalFold]

@[simp] theorem equalFold_self (a : String) : equalFold a a = true := by
  simp [equalFold_iff]

theorem equalFold_comm (a b : String) : equalFold a b = equalFold b a := by
  rw [Bool.eq_iff_iff, equalFold_iff, equalFold_iff, eq_comm]

theorem equalFold_trans {a b c : String} (hab : equalFold a b = true)
    (hbc : equalFold b c = true) : equalFold a c = true := by
  rw [equalFold_iff] at *
  exact hab.trans hbc

end Text.CaseMap

/-- A mode word that names no mode reads as `all`. -/
theorem Load.Mode.parse_fst_of_isSome {s : String} (h : (Load.Mode.parse s).2.isSome) :
    (Load.Mode.parse s).1 = Load.Mode.all := by
  revert h
  unfold Load.Mode.parse
  split <;> simp

/-- A patch word that names no rule reads as `merge`. -/
theorem Load.PatchRule.parse_fst_of_isSome {s : String} (h : (Load.PatchRule.parse s).2.isSome) :
    (Load.PatchRule.parse s).1 = Load.PatchRule.merge := by
  revert h
  unfold Load.PatchRule.parse
  split <;> simp

/-! ## §2 — overrides set one after another -/

/-- Inserting a key into a dictionary makes it the first entry of that key. -/
theorem find?_insertSorted_self {α : Type} (k : String) (v : α) (l : List (String × α)) :
    (insertSorted k v l).find? (fun e => decide (e.1 = k)) = some (k, v) := by
  induction l with
  | nil => simp [insertSorted]
  | cons e rest ih =>
    obtain ⟨k', v'⟩ := e
    simp only [insertSorted]
    split_ifs with heq hlt
    · simp
    · simp
    · -- the entry kept in front has another key
      simp [Ne.symm heq, ih]

/-- Inserting a key leaves the first entry of any other key as it was. -/
theorem find?_insertSorted_of_ne {α : Type} {k n : String} (h : k ≠ n) (v : α)
    (l : List (String × α)) :
    (insertSorted k v l).find? (fun e => decide (e.1 = n)) =
      l.find? (fun e => decide (e.1 = n)) := by
  induction l with
  | nil => simp [insertSorted, h]
  | cons e rest ih =>
    obtain ⟨k', v'⟩ := e
    simp only [insertSorted]
    split_ifs with heq hlt
    · subst heq
      simp [h]
    · simp [h]
    · simp [List.find?_cons, ih]

namespace Load.Options

@[simp] theorem setOverride_shared (o : Options) (m : String) (mo : Option TableOptions) :
    (o.setOverride m mo).shared = o.shared := by
  cases mo <;> rfl

/-- Setting or removing the override of a name gives that name exactly that override. -/
@[simp] theorem override?_setOverride_self (o : Options) (n : String) (mo : Option TableOptions) :
    (o.setOverride n mo).override? n = mo := by
  cases mo with
  | none =>
    simp only [setOverride, override?, List.find?_filter, Option.map_eq_none_iff,
      List.find?_eq_none]
    intro x _
    simp
  | some mo => simp [setOverride, override?, find?_insertSorted_self]

/-- Setting or removing the override of a name leaves every other name's alone. -/
theorem override?_setOverride_of_ne (o : Options) {m n : String} (h : m ≠ n)
    (mo : Option TableOptions) : (o.setOverride m mo).override? n = o.override? n := by
  -- dropping the entries of `m` drops no entry of `n`
  have hkeep : (o.overrides.filter (fun e => decide (e.1 ≠ m))).find? (fun e => decide (e.1 = n)) =
      o.overrides.find? (fun e => decide (e.1 = n)) := by
    rw [List.find?_filter]
    congr 1
    funext e
    by_cases he : e.1 = n
    · simp [he, Ne.symm h]
    · simp [he]
  cases mo with
  | none => simp only [setOverride, override?, hkeep]
  | some mo => simp only [setOverride, override?, find?_insertSorted_of_ne h, hkeep]

section Fold

variable {α : Type} (tgt : α → String) (opt : α → TableOptions)

/-- Overrides set one after another, each under the name `tgt` gives it. -/
def setAll (l : List α) (o : Options) : Options :=
  l.foldl (fun o x => o.setOverride (tgt x) (some (opt x))) o

@[simp] theorem setAll_nil (o : Options) : setAll tgt opt [] o = o := rfl

@[simp] theorem setAll_cons (x : α) (rest : List α) (o : Options) :
    setAll tgt opt (x :: rest) o = setAll tgt opt rest (o.setOverride (tgt x) (some (opt x))) := rfl

@[simp] theorem setAll_shared (l : List α) (o : Options) : (setAll tgt opt l o).shared = o.shared := by
  induction l generalizing o with
  | nil => rfl
  | cons x rest ih => rw [setAll_cons, ih, setOverride_shared]

/-- **A name no override targets keeps its override.** -/
theorem foldl_setOverride_of_forall_ne {n : String} :
    ∀ (l : List α) (o : Options), (∀ x ∈ l, tgt x ≠ n) →
      (setAll tgt opt l o).override? n = o.override? n := by
  intro l
  induction l with
  | nil => intro o _; rfl
  | cons x rest ih =>
    intro o hne
    rw [setAll_cons, ih _ (fun y hy => hne y (List.mem_cons_of_mem _ hy)),
      override?_setOverride_of_ne o (hne x List.mem_cons_self)]

/-- **Overrides that agree land whatever their order.** When every override set under `n`
carries the options of `a`, the last of them leaves those options. -/
theorem foldl_setOverride_of_mem {n : String} :
    ∀ (l : List α) (o : Options) (a : α), a ∈ l → tgt a = n →
      (∀ x ∈ l, tgt x = n → opt x = opt a) → (setAll tgt opt l o).override? n = some (opt a) := by
  intro l
  induction l with
  | nil => intro o a ha; cases ha
  | cons x rest ih =>
    intro o a ha hn hagree
    rw [setAll_cons]
    by_cases hlater : ∃ y ∈ rest, tgt y = n
    · -- a later override under `n` agrees with `a`, and the last one wins
      obtain ⟨y, hy, hyn⟩ := hlater
      have hya : opt y = opt a := hagree y (List.mem_cons_of_mem _ hy) hyn
      rw [← hya]
      exact ih _ y hy hyn
        (fun z hz hzn => (hagree z (List.mem_cons_of_mem _ hz) hzn).trans hya.symm)
    · -- no later override targets `n`, so `x` is the one under `n` and carries `a`'s options
      push Not at hlater
      rw [foldl_setOverride_of_forall_ne tgt opt rest _ hlater]
      have hx : tgt x = n := by
        rcases List.mem_cons.mp ha with rfl | ha
        · exact hn
        · exact absurd hn (hlater a ha)
      rw [← hx, override?_setOverride_self, hagree x List.mem_cons_self hx]

/-- An override left after setting overrides was set by one of them, or was there before. -/
theorem foldl_setOverride_source {n : String} {mo : TableOptions} :
    ∀ (l : List α) (o : Options), (setAll tgt opt l o).override? n = some mo →
      (∃ x ∈ l, tgt x = n ∧ opt x = mo) ∨ o.override? n = some mo := by
  intro l
  induction l with
  | nil => intro o h; exact .inr h
  | cons x rest ih =>
    intro o h
    rw [setAll_cons] at h
    rcases ih _ h with ⟨y, hy, hyn, hyo⟩ | hbefore
    · exact .inl ⟨y, List.mem_cons_of_mem _ hy, hyn, hyo⟩
    · by_cases hx : tgt x = n
      · rw [← hx, override?_setOverride_self, Option.some.injEq] at hbefore
        exact .inl ⟨x, List.mem_cons_self, hx, hbefore⟩
      · rw [override?_setOverride_of_ne o hx] at hbefore
        exact .inr hbefore

end Fold

/-- The options of a table without an override: the global ones, and no file of its own. -/
theorem forTable_of_override?_none {o : Options} {n : String} (h : o.override? n = none) :
    o.forTable n = ⟨o.shared, "", [], PatchRule.merge⟩ := by
  simp [forTable, h]

/-- The options of a table with an override: each shared setting the override sets, the global
one elsewhere, and the override's file, patch files and patch rule. -/
theorem forTable_of_override?_some {o : Options} {n : String} {mo : TableOptions}
    (h : o.override? n = some mo) :
    o.forTable n =
      ⟨⟨mo.shared.ignoreUnknown.or o.shared.ignoreUnknown, mo.shared.reader.or o.shared.reader,
        mo.shared.loader.or o.shared.loader,
        if mo.shared.patchDirs.isEmpty then o.shared.patchDirs else mo.shared.patchDirs,
        mo.shared.mode.or o.shared.mode⟩, mo.path, mo.patchPaths, mo.patch⟩ := by
  simp [forTable, h]

end Load.Options

/-! ## §3 — the setters of the settings -/

namespace Config.Settings

open Text.CaseMap

/-- The name a table entry's override is set under: the first name equal to its key ignoring
case, else the key itself. -/
def overrideName (names : List String) (key : String) : String :=
  (names.find? (fun n => equalFold n key)).getD key

/-- The override a table entry sets: its unknown-field switch, file, patch files and patch rule
(`merge` when the rule names none), and no other setting. -/
def entryOptions (t : TableSettings) : Load.TableOptions :=
  ⟨⟨t.ignoreUnknown, none, none, [], none⟩, t.path, t.patchPaths, (Load.PatchRule.parse t.patch).1⟩

/-- The global options the settings set: unknown fields, patch directories and mode (`all` when
the mode names none). -/
def globalOptions (c : Settings) : Load.Shared :=
  ⟨some c.ignoreUnknown, none, none, c.patchDirs, some (Load.Mode.parse c.mode).1⟩

/-- A name of the list matched by a key is the first name equal to it ignoring case. -/
theorem overrideName_eq_iff {names : List String} {n key : String} (hn : n ∈ names) :
    overrideName names key = n ↔ names.find? (fun m => equalFold m key) = some n := by
  unfold overrideName
  rcases hf : names.find? (fun m => equalFold m key) with _ | m
  · -- matching no name keeps the key, which would have matched `n` had it been `n`
    simp only [Option.getD_none, reduceCtorEq, iff_false]
    rintro rfl
    exact List.find?_eq_none.mp hf _ hn (equalFold_self _)
  · simp

/-- The name an entry is matched to is equal to its key ignoring case. -/
theorem equalFold_overrideName {names : List String} (key : String) :
    equalFold (overrideName names key) key = true := by
  unfold overrideName
  rcases hf : names.find? (fun m => equalFold m key) with _ | m
  · simp
  · simp only [Option.getD_some]
    exact List.find?_some (p := fun m => equalFold m key) hf

/-- Options built from the settings are the entries' overrides set over the global options. -/
theorem ofSetters_loadSetters (c : Settings) (names : List String) :
    Load.Options.ofSetters (c.loadSetters names) =
      Load.Options.setAll (fun e => overrideName names e.1) (fun e => entryOptions e.2) c.tables
        ⟨c.globalOptions, []⟩ := by
  unfold loadSetters Load.Options.ofSetters Load.Options.setAll
  rw [List.foldl_append, List.foldl_append, List.foldl_map]
  -- the patch directories are set exactly when there are some, which leaves them as given
  have hbase : List.foldl Load.Setter.apply
      (List.foldl Load.Setter.apply Load.Options.empty
        [.ignoreUnknown c.ignoreUnknown, .mode (Load.Mode.parse c.mode).1])
      (if c.patchDirs.isEmpty then [] else [.patchDirs c.patchDirs]) = ⟨c.globalOptions, []⟩ := by
    by_cases hd : c.patchDirs.isEmpty
    · have hnil : c.patchDirs = [] := List.isEmpty_iff.mp hd
      simp only [hd, if_true, List.foldl_nil]
      unfold globalOptions
      rw [hnil]
      rfl
    · simp only [hd, Bool.false_eq_true, if_false]
      rfl
  rw [hbase]
  rfl

/-- **Every override the settings set is an entry's**, under the name the entry's key was
matched to. -/
theorem override?_loadSetters {c : Settings} {names : List String} {n : String}
    {mo : Load.TableOptions}
    (h : (Load.Options.ofSetters (c.loadSetters names)).override? n = some mo) :
    ∃ e ∈ c.tables, overrideName names e.1 = n ∧ entryOptions e.2 = mo := by
  rw [ofSetters_loadSetters] at h
  rcases Load.Options.foldl_setOverride_source _ _ _ _ h with he | h0
  · exact he
  · cases h0

@[simp] theorem ofSetters_loadSetters_shared (c : Settings) (names : List String) :
    (Load.Options.ofSetters (c.loadSetters names)).shared = c.globalOptions := by
  rw [ofSetters_loadSetters, Load.Options.setAll_shared]

/-- Keys pairwise distinct ignoring case: two entries whose keys are equal ignoring case are
one entry. -/
theorem eq_of_equalFold_keys {α : Type} {l : List (String × α)}
    (hl : (l.map (·.1)).Pairwise (fun a b => equalFold a b = false)) {e e' : String × α}
    (he : e ∈ l) (he' : e' ∈ l) (hf : equalFold e.1 e'.1 = true) : e = e' := by
  induction l with
  | nil => cases he
  | cons x rest ih =>
    rw [List.map_cons, List.pairwise_cons] at hl
    have hx : ∀ y ∈ rest, equalFold x.1 y.1 = false := fun y hy =>
      hl.1 y.1 (List.mem_map_of_mem hy)
    rcases List.mem_cons.mp he with rfl | hr <;> rcases List.mem_cons.mp he' with rfl | hr'
    · rfl
    · exact absurd hf (by simp [hx e' hr'])
    · rw [equalFold_comm] at hf
      exact absurd hf (by simp [hx e hr])
    · exact ih hl.2 hr hr'

section Tables

variable {c : Settings} {names : List String}

/-- With keys pairwise distinct ignoring case, at most one entry is matched to a name of the
list. -/
theorem entry_unique (hkeys : (c.tables.map (·.1)).Pairwise (fun a b => equalFold a b = false))
    {n : String} {e e' : String × TableSettings} (he : e ∈ c.tables) (he' : e' ∈ c.tables)
    (hn : overrideName names e.1 = n) (hn' : overrideName names e'.1 = n) : e = e' := by
  have h1 : equalFold n e.1 = true := hn ▸ equalFold_overrideName e.1
  have h2 : equalFold n e'.1 = true := hn' ▸ equalFold_overrideName e'.1
  exact eq_of_equalFold_keys hkeys he he' (equalFold_trans (by rwa [equalFold_comm]) h2)

/-- A name some entry is matched to loads with that entry's override over the global options. -/
theorem forTable_loadSetters_of_mem
    (hkeys : (c.tables.map (·.1)).Pairwise (fun a b => equalFold a b = false)) {n : String}
    {e : String × TableSettings} (he : e ∈ c.tables) (hn : overrideName names e.1 = n) :
    (Load.Options.ofSetters (c.loadSetters names)).forTable n =
      ⟨{ c.globalOptions with ignoreUnknown := e.2.ignoreUnknown.or (some c.ignoreUnknown) },
        e.2.path, e.2.patchPaths, (Load.PatchRule.parse e.2.patch).1⟩ := by
  have hov : (Load.Options.ofSetters (c.loadSetters names)).override? n =
      some (entryOptions e.2) := by
    rw [ofSetters_loadSetters]
    exact Load.Options.foldl_setOverride_of_mem _ _ _ _ _ he hn
      (fun x hx hxn => by rw [entry_unique hkeys hx he hxn hn])
  rw [Load.Options.forTable_of_override?_some hov, ofSetters_loadSetters_shared]
  rfl

/-- A name no entry is matched to loads with the global options and no file of its own. -/
theorem forTable_loadSetters_of_forall_ne {n : String}
    (hn : ∀ e ∈ c.tables, overrideName names e.1 ≠ n) :
    (Load.Options.ofSetters (c.loadSetters names)).forTable n =
      ⟨c.globalOptions, "", [], Load.PatchRule.merge⟩ := by
  have hov : (Load.Options.ofSetters (c.loadSetters names)).override? n = none := by
    rw [ofSetters_loadSetters, Load.Options.foldl_setOverride_of_forall_ne _ _ _ _ hn]
    rfl
  rw [Load.Options.forTable_of_override?_none hov, ofSetters_loadSetters_shared]

/-- Every name loads with the mode and patch directories of the settings: no entry sets them. -/
theorem forTable_loadSetters_mode (n : String) :
    ((Load.Options.ofSetters (c.loadSetters names)).forTable n).mode = (Load.Mode.parse c.mode).1 ∧
      ((Load.Options.ofSetters (c.loadSetters names)).forTable n).shared.patchDirs = c.patchDirs := by
  rcases hov : (Load.Options.ofSetters (c.loadSetters names)).override? n with _ | mo
  · rw [Load.Options.forTable_of_override?_none hov, ofSetters_loadSetters_shared]
    exact ⟨rfl, rfl⟩
  · obtain ⟨e, -, -, rfl⟩ := override?_loadSetters hov
    rw [Load.Options.forTable_of_override?_some hov, ofSetters_loadSetters_shared]
    exact ⟨rfl, rfl⟩

/-- The options of a name depend on the entries only through which entries there are. -/
theorem forTable_loadSetters_perm {tables : List (String × TableSettings)}
    (hperm : tables.Perm c.tables)
    (hkeys : (c.tables.map (·.1)).Pairwise (fun a b => equalFold a b = false)) (n : String) :
    (Load.Options.ofSetters ({ c with tables := tables }.loadSetters names)).forTable n =
      (Load.Options.ofSetters (c.loadSetters names)).forTable n := by
  have hkeys' : (tables.map (·.1)).Pairwise (fun a b => equalFold a b = false) :=
    (hperm.map _).pairwise_iff (fun {a b} h => by rwa [equalFold_comm]) |>.mpr hkeys
  by_cases hex : ∃ e ∈ c.tables, overrideName names e.1 = n
  · obtain ⟨e, he, hen⟩ := hex
    rw [forTable_loadSetters_of_mem hkeys he hen,
      forTable_loadSetters_of_mem (c := { c with tables := tables }) hkeys'
        (hperm.mem_iff.mpr he) hen]
    rfl
  · push Not at hex
    rw [forTable_loadSetters_of_forall_ne hex,
      forTable_loadSetters_of_forall_ne (c := { c with tables := tables })
        (fun e he => hex e (hperm.mem_iff.mp he))]
    rfl

end Tables

end Config.Settings

/-- **The options a table loads with, from the settings.** Over settings whose table keys are
pairwise distinct ignoring case and any list of table names, every name of the list loads with
the mode the settings name (`all` when they name none), their patch directories, and: when it is
the first name of the list equal to an entry's key ignoring case, that entry's file, patch files
and patch rule (`merge` when the rule names none) and its unknown-field switch if it sets one,
else the global switch; when it is no entry's, the global switch, no file, no patch files and
`merge`. Listing the entries in another order changes none of it. -/
theorem loadSetters_forTable {c : Config.Settings} {names : List String}
    (hkeys : (c.tables.map (·.1)).Pairwise (fun a b => Text.CaseMap.equalFold a b = false))
    {n : String} (hn : n ∈ names) :
    let o := (Load.Options.ofSetters (c.loadSetters names)).forTable n
    o.mode = (Load.Mode.parse c.mode).1 ∧
    ((Load.Mode.parse c.mode).2.isSome → o.mode = Load.Mode.all) ∧
    o.shared.patchDirs = c.patchDirs ∧
    (∀ k t, (k, t) ∈ c.tables → names.find? (fun m => Text.CaseMap.equalFold m k) = some n →
      o.ignoreUnknown = t.ignoreUnknown.getD c.ignoreUnknown ∧ o.path = t.path ∧
        o.patchPaths = t.patchPaths ∧ o.patch = (Load.PatchRule.parse t.patch).1 ∧
        ((Load.PatchRule.parse t.patch).2.isSome → o.patch = Load.PatchRule.merge)) ∧
    ((∀ k t, (k, t) ∈ c.tables → names.find? (fun m => Text.CaseMap.equalFold m k) ≠ some n) →
      o.ignoreUnknown = c.ignoreUnknown ∧ o.path = "" ∧ o.patchPaths = [] ∧
        o.patch = Load.PatchRule.merge) ∧
    ∀ tables : List (String × Config.TableSettings), tables.Perm c.tables →
      (Load.Options.ofSetters ({ c with tables := tables }.loadSetters names)).forTable n = o := by
  intro o
  obtain ⟨hmode, hdirs⟩ := @Config.Settings.forTable_loadSetters_mode c names n
  refine ⟨hmode, fun h => hmode.trans (Load.Mode.parse_fst_of_isSome h), hdirs, ?_, ?_,
    fun tables hperm => Config.Settings.forTable_loadSetters_perm hperm hkeys n⟩
  · -- `n` is the first name matching the key, so the entry's override is set under `n`
    intro k t hkt hf
    have hen := (Config.Settings.overrideName_eq_iff hn).mpr hf
    have ho : o = _ := Config.Settings.forTable_loadSetters_of_mem hkeys hkt hen
    rw [ho]
    refine ⟨?_, rfl, rfl, rfl, Load.PatchRule.parse_fst_of_isSome⟩
    cases t.ignoreUnknown <;> rfl
  · intro hnone
    have hne : ∀ e ∈ c.tables, Config.Settings.overrideName names e.1 ≠ n := fun e he hen =>
      hnone e.1 e.2 he ((Config.Settings.overrideName_eq_iff hn).mp hen)
    have ho : o = _ := Config.Settings.forTable_loadSetters_of_forall_ne hne
    rw [ho]
    exact ⟨rfl, rfl, rfl, rfl⟩

/-- Settings with one entry, under a lower-cased key, set the file, patch rule and unknown-field
switch of the table whose name matches the key ignoring case. -/
theorem hero_entry_sets_hero_options :
    let c : Config.Settings := { Config.Settings.zero with
      tables := [("heroconf", ⟨"custom/hero.json", some true, ["p/HeroConf.json"], "replace"⟩)] }
    let names := ["HeroConf", "ItemConf", "TaskConf", "ThemeConf"]
    let o := (Load.Options.ofSetters (c.loadSetters names)).forTable "HeroConf"
    (c.tables.map (·.1)).Pairwise (fun a b => Text.CaseMap.equalFold a b = false) ∧
      "HeroConf" ∈ names ∧
      o.path = "custom/hero.json" ∧ o.patch = Load.PatchRule.replace ∧ o.ignoreUnknown = true := by
  intro c names o
  have hk : (c.tables.map (·.1)).Pairwise (fun a b => Text.CaseMap.equalFold a b = false) :=
    List.pairwise_singleton _ _
  have hn : "HeroConf" ∈ names := by simp [names]
  obtain ⟨-, -, -, hentry, -⟩ := loadSetters_forTable hk hn
  obtain ⟨hign, hpath, -, hpatch, -⟩ := hentry "heroconf" _ List.mem_cons_self (by decide)
  exact ⟨hk, hn, hpath, hpatch.trans (by decide +kernel), hign⟩

end ConfigTables
