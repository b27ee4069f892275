import Mathlib
import ConfigTables.Proofs.TableFaults
import ConfigTables.Proofs.LoadSettings
import ConfigTables.Proofs.Lifecycle
/-!
# Loads under settings that validated

Validating the settings and loading a table each read the same words: the format, the patch
rule of each table, and the extensions of each table's file and patch files. Validation rejects
every one of them that loading would reject before reading a file, so a program whose settings
validated only sees tables fail as reading files fails:

* `Requests.readable`: every request a program makes under validated settings gives every table
  readable options: the default load step, a plain reader, a file and patch files of known
  formats, and merge or replace.
* `Hub.load_only_reads`: so a load over the registered tables reports, for every table, a failure
  in which every table-load failure is a missing file, a file that does not parse, or a table
  skipped because the context was done, and which is such a failure or a failed hook.
* `Serves`, `validated_loads_fail_only_reading`: **every hub a program serves under validated
  settings**, after any loads of its requests and any reloads, reports nothing else: no table
  fails with an unknown format, and none with an illegal parameter unless the context's
  cancellation or passed deadline skipped it.
* `newLoader_of`, `Loader.Of.load`: the loaders the program sets up from its settings and loads
  with hold hubs it serves, so their reports are among these.
-/

namespace ConfigTables

/-! ## §1 — validated settings give readable options -/

/-- A patch word that names a rule names merge or replace. -/
theorem Load.PatchRule.parse_known {s : String} (h : (Load.PatchRule.parse s).2 = none) :
    (Load.PatchRule.parse s).1 = .merge ∨ (Load.PatchRule.parse s).1 = .replace := by
  revert h
  unfold Load.PatchRule.parse
  split <;> simp

namespace Config.Settings

/-- The format the settings name can be loaded. -/
theorem parsedFormat_loadable {c : Settings} {f : Format} (h : c.parsedFormat = .ok f) :
    f.loadable = true := by
  unfold parsedFormat at h
  split at h
  · cases h
    rfl
  · split at h
    · cases h
    · split at h
      · cases h
        assumption
      · cases h

/-- Settings that validated have no table entry at fault. -/
theorem tableFault_of_validate {c : Settings} (hv : c.validate = none) :
    ∀ e ∈ c.tables, tableFault e.1 e.2 = none := by
  intro e he
  -- every check before the tables passed, so the search over the entries found no fault
  unfold validate at hv
  repeat' (split at hv <;> try contradiction)
  rename_i hfind _
  simpa using List.findSome?_eq_none_iff.mp hfind e he

/-- **A table entry with no fault sets readable options.** -/
theorem entryOptions_readable {k : String} {t : TableSettings} (ht : tableFault k t = none) :
    (entryOptions t).Readable := by
  unfold tableFault at ht
  split at ht
  · cases ht
  · next hpath =>
    split at ht
    · cases ht
    · next hfind =>
      split at ht
      · cases ht
      · next hpatch =>
        refine ⟨rfl, (fun r hr => by cases hr), ?_, ?_, Load.PatchRule.parse_known hpatch⟩
        · have hp : t.path ≠ "" → Format.ofPath t.path ≠ .unknown := by simpa using hpath
          exact hp
        · intro q hq
          simpa using List.find?_eq_none.mp hfind q hq

end Config.Settings

namespace Load

/-- A table's options are readable when the global ones set no load step and a plain reader if
any, and every override is readable. -/
theorem Options.forTable_readable {o : Options} (hl : o.shared.loader = none)
    (hr : ∀ r, o.shared.reader = some r → r.Plain)
    (hov : ∀ n mo, o.override? n = some mo → mo.Readable) (n : String) :
    (o.forTable n).Readable := by
  rcases hn : o.override? n with _ | mo
  · rw [Options.forTable_of_override?_none hn]
    exact ⟨hl, hr, (fun h => absurd rfl h), (fun q hq => by cases hq), .inl rfl⟩
  · have hm := hov n mo hn
    rw [Options.forTable_of_override?_some hn]
    refine ⟨by simp [hm.loader, hl], ?_, hm.path, hm.patchPaths, hm.patch⟩
    -- the override's reader if it sets one, else the global one
    intro r h
    rcases hmr : mo.shared.reader with _ | r'
    · rw [hmr, Option.none_or] at h
      exact hr r h
    · rw [hmr, Option.some_or] at h
      cases h
      exact hm.reader _ hmr

/-- A reader set last replaces the global reader only. -/
theorem Options.ofSetters_append_reader (ss : List Setter) (r : Reader) :
    Options.ofSetters (ss ++ [.reader r]) =
      { Options.ofSetters ss with
        shared := { (Options.ofSetters ss).shared with reader := some r } } := by
  simp [Options.ofSetters, List.foldl_append, Setter.apply]

end Load

/-- Reading through a fresh cache fails plainly. -/
theorem Command.cachedReader_plain (fs : Files.Tree) : (Command.cachedReader fs).Plain := by
  intro path e he
  unfold Command.cachedReader at he
  cases hc : (Cache.empty.readThrough fs path).1 with
  | error x =>
    rw [hc] at he
    cases he
    exact Fault.loadFree_text x
  | ok bs =>
    rw [hc] at he
    cases he

namespace Config.Settings

/-- The requests a program makes under settings `c`: any directory, the format the settings
name, and the settings' load setters for the registered tables, followed by a reader through a
file cache when it caches. -/
def Requests (c : Settings) (req : Hub.Request) : Prop :=
  c.parsedFormat = .ok req.format ∧
    (req.setters = c.loadSetters Command.registry.names ∨
      ∃ fs, req.setters = c.loadSetters Command.registry.names ++ [.reader (Command.cachedReader fs)])

/-- **Every request under validated settings gives every table readable options**: every
override is a validated entry's, and the settings set no load step and no reader but the
cache's. -/
theorem Requests.readable {c : Settings} (hv : c.validate = none) {req : Hub.Request}
    (hreq : c.Requests req) (n : String) :
    ((Load.Options.ofSetters req.setters).forTable n).Readable := by
  have hov : ∀ n mo, (Load.Options.ofSetters (c.loadSetters Command.registry.names)).override? n =
      some mo → mo.Readable := by
    intro n mo h
    obtain ⟨e, he, -, rfl⟩ := override?_loadSetters h
    exact entryOptions_readable (tableFault_of_validate hv e he)
  rcases hreq.2 with hs | ⟨fs, hs⟩
  · rw [hs]
    refine Load.Options.forTable_readable ?_ ?_ hov n
    · simp [globalOptions]
    · simp [globalOptions]
  · rw [hs, Load.Options.ofSetters_append_reader]
    apply Load.Options.forTable_readable
    · simp [globalOptions]
    · rintro r ⟨⟩
      exact Command.cachedReader_plain fs
    · exact hov

end Config.Settings

/-! ## §2 — one load -/

namespace Hub

/-- A load over the registered tables builds only built-in tables. -/
theorem fresh_builtin {h : Hub} (hreg : h.registry = Command.registry) {x : String × Table}
    (hx : x ∈ h.fresh) : ∃ ty, x.2.kind = .builtin ty := by
  obtain ⟨k, hk, hx2⟩ := Hub.mem_fresh.mp hx
  have hm : (x.1, Maker.table k) ∈ Command.registry.entries := by
    rw [← hreg]
    exact (List.mem_filter.mp hk).1
  rw [registry_entries] at hm
  simp only [List.mem_cons, Prod.mk.injEq, Maker.table.injEq, List.not_mem_nil, or_false] at hm
  rw [hx2]
  rcases hm with ⟨-, rfl⟩ | ⟨-, rfl⟩ | ⟨-, rfl⟩ | ⟨-, rfl⟩ <;> exact ⟨_, rfl⟩

/-- Each report a load publishes stands at the position of a table it built. -/
theorem load_report_at {h : Hub} (hb : h.Builds) (fs : Files.Tree) (req : Request) (stamp : Stamp)
    (ctx : Context) {r : TableReport}
    (hr : r ∈ ((h.load fs req stamp ctx).1.report?.map (·.tables)).getD []) :
    ∃ (i : Nat) (x : String × Table), h.fresh[i]? = some x ∧
      (((h.load fs req stamp ctx).1.report?.map (·.tables)).getD [])[i]? = some r := by
  obtain ⟨i, hi⟩ := List.mem_iff_getElem?.mp hr
  have hlen : (((h.load fs req stamp ctx).1.report?.map (·.tables)).getD []).length =
      h.fresh.length := by
    have hrep := congrArg List.length (Hub.load_report_names fs req stamp ctx hb)
    have hfresh := congrArg List.length (Hub.fresh_names hb)
    rw [List.length_map, List.length_map] at hrep hfresh
    rw [hrep, hfresh]
  have hlt : i < h.fresh.length := hlen ▸ (List.getElem?_eq_some_iff.mp hi).1
  exact ⟨i, h.fresh[i], List.getElem?_eq_getElem hlt, hi⟩

/-- **A load of a request under validated settings reports only reading failures**, skipped
tables and failed hooks, for every table of the registered ones that the hub accepts. -/
theorem load_only_reads {c : Config.Settings} (hv : c.validate = none) {h : Hub}
    (hreg : h.registry = Command.registry) (hdef : h.settings.defaults = []) {req : Request}
    (hreq : c.Requests req) (fs : Files.Tree) (stamp : Stamp) (ctx : Context) :
    ∀ r ∈ ((h.load fs req stamp ctx).1.report?.map (·.tables)).getD [],
      ∀ e, r.fault = some e → e.OnlyReads := by
  have hr : h.registry.Ordered := hreg ▸ registry_ordered
  have hb := builds_of_registry hreg
  intro r hmem e he
  obtain ⟨i, x, hx, hi⟩ := load_report_at hb fs req stamp ctx hmem
  obtain ⟨ty, hty⟩ := fresh_builtin hreg (List.mem_of_getElem? hx)
  obtain ⟨-, hrep⟩ := Hub.load_at fs req stamp ctx hr hb hx
  rw [hrep, Option.some.injEq] at hi
  subst hi
  -- the table reads with the request's options, which the hub adds nothing to
  have ho : ((h.loadOptions req).forTable x.1).Readable := by
    unfold Hub.loadOptions
    rw [hdef, List.nil_append]
    exact hreq.readable hv x.1
  have hf := Config.Settings.parsedFormat_loadable hreq.1
  rw [TableReport.crossed_fault] at he
  refine crossFault_onlyReads _ ?_ ?_ e he
  · exact loadJob_onlyReads hty fs req.dir hf (ctx.err i) stamp.tableNanos ho
  · intro y hy
    obtain ⟨⟨t', o'⟩, hall, hfy⟩ := Option.bind_eq_some_iff.mp hy
    exact Table.afterAll_plain (by rw [loadJob_kind, hty]) hall y hfy

/-! ## §3 — every hub a program serves -/

/-- The hubs a program serves under settings `c`: a hub over the registered tables with no load
setters of its own, after any loads of the requests the program makes and any reloads. -/
inductive Serves (c : Config.Settings) : Hub → Prop
  | create {s : Settings} (hs : s.defaults = []) : Serves c (Hub.create Command.registry s)
  | load {h : Hub} (hh : Serves c h) (fs : Files.Tree) (req : Request) (stamp : Stamp)
      (ctx : Context) (hreq : c.Requests req) : Serves c (h.load fs req stamp ctx).1
  | reload {h : Hub} (hh : Serves c h) (fs : Files.Tree) (stamp : Stamp) (ctx : Context) :
      Serves c (h.reload fs stamp ctx).1

/-- What holds of a hub a program serves: its registry and setters, the request it keeps for
reloads, and the failures its last report names. -/
structure Served (c : Config.Settings) (h : Hub) : Prop where
  registry : h.registry = Command.registry
  defaults : h.settings.defaults = []
  last : ∀ req, h.last = some req → c.Requests req
  reports : ∀ rep, h.report? = some rep → ∀ r ∈ rep.tables, ∀ e, r.fault = some e → e.OnlyReads

/-- A load of a request keeps it. -/
theorem Served.load {c : Config.Settings} (hv : c.validate = none) {h : Hub} (hs : Served c h)
    (fs : Files.Tree) {req : Request} (stamp : Stamp) (ctx : Context) (hreq : c.Requests req) :
    Served c (h.load fs req stamp ctx).1 := by
  refine ⟨by rw [Hub.load_registry, hs.registry], by rw [Hub.load_settings, hs.defaults], ?_, ?_⟩
  · intro r hr
    rw [Hub.load_last] at hr
    cases hr
    exact hreq
  · intro rep hrep
    have := load_only_reads hv hs.registry hs.defaults hreq fs stamp ctx
    rw [hrep] at this
    exact this

/-- Every hub a program serves under validated settings is served so. A reload repeats the kept
request, which was one of the program's. -/
theorem Serves.served {c : Config.Settings} (hv : c.validate = none) {h : Hub} (hh : Serves c h) :
    Served c h := by
  induction hh with
  | create hs => exact ⟨rfl, hs, (fun _ h => by cases h), (fun _ h => by cases h)⟩
  | load hh fs req stamp ctx hreq ih => exact ih.load hv fs stamp ctx hreq
  | @reload h hh fs stamp ctx ih =>
    rcases Hub.reload_cases fs stamp ctx h with ⟨-, hr⟩ | ⟨req, hl, hr⟩
    · rw [hr]
      exact ih
    · rw [hr]
      exact ih.load hv fs stamp ctx (ih.last req hl)

/-- **Validation is sound for loading.** For settings that validated and every hub a program
serves under them (created over the registered tables, then loaded with the requests it makes
and reloaded, in any order, under any context), every table the last report names as failed
failed with no unknown format anywhere in its fault; every table-load failure in the fault is a
missing file, a file that does not parse, or an illegal parameter whose cause is the context's
error, its cancellation or its passed deadline; and the table's reported kind is one of these, or
it has none and a hook failed. -/
theorem validated_loads_fail_only_reading {c : Config.Settings} (hv : c.validate = none) {h : Hub}
    (hh : Serves c h) :
    ∀ rep, h.report? = some rep → ∀ r ∈ rep.tables, ∀ e, r.fault = some e →
      e.hasLoadKind .unknownFormat = false ∧
      (∀ k t p c', Fault.load k t p c' ∈ e.nodes →
        k = .notFound ∨ k = .parse ∨ (k = .illegalParam ∧
          (c' = some (.sentinel .canceled) ∨ c' = some (.sentinel .deadlineExceeded)))) ∧
      (r.kind = some .notFound ∨ r.kind = some .parse ∨ r.kind = some .illegalParam ∨
        (r.kind = none ∧ e.firstHook?.isSome)) := by
  intro rep hrep r hr e he
  have hread := (hh.served hv).reports rep hrep r hr e he
  have hkind : r.kind = e.loadKind? := by simp [TableReport.kind, he]
  rw [hkind]
  exact ⟨hread.hasLoadKind_unknownFormat, hread.kinds, hread.loadKind?⟩

/-- Settings that point the hero table at an upper-case `.JSON` file with a binary patch file,
replace its patches and search a patch directory validate, and the load of their request over
the registered tables, under a deadline that passes while the first table loads, reports no
unknown format. -/
theorem patched_hero_loads_fail_only_reading :
    let c : Config.Settings := { Config.Settings.zero with
      tables := [("heroconf", ⟨"custom/Hero.JSON", none, ["p/Hero.binpb"], "Replace"⟩)],
      patchDirs := ["patches"] }
    let req : Request := ⟨"conf", .json, c.loadSetters Command.registry.names⟩
    let h := ((Hub.create Command.registry ⟨.all, [], none, false⟩).load .empty req
      ⟨"s", none, 1500000⟩ (.withTimeout 1000000 1500000)).1
    c.validate = none ∧ Serves c h ∧
      ∀ rep, h.report? = some rep → ∀ r ∈ rep.tables, ∀ e, r.fault = some e →
        e.hasLoadKind .unknownFormat = false := by
  intro c req h
  have hv : c.validate = none := by decide +kernel
  have hh : Serves c h := Serves.load (Serves.create rfl) _ _ _ _ ⟨by decide +kernel, .inl rfl⟩
  exact ⟨hv, hh, fun rep hrep r hr e he =>
    (validated_loads_fail_only_reading hv hh rep hrep r hr e he).1⟩

end Hub

/-! ## §4 — the program's loaders -/

namespace Command

/-- A step that ends well ran each of its two halves to a value. -/
theorem Step.run_bind_ok {α β : Type} {m : Step α} {k : α → Step β} {r r' : Run} {b : β}
    (h : (m >>= k).run.run r = (.ok b, r')) :
    ∃ a r₁, m.run.run r = (.ok a, r₁) ∧ (k a).run.run r₁ = (.ok b, r') := by
  simp only [ExceptT.run_bind, StateT.run_bind] at h
  rcases hm : m.run.run r with ⟨_ | a, r₁⟩
  · rw [hm] at h
    cases h
  · rw [hm] at h
    exact ⟨a, r₁, rfl, h⟩

/-- **The loader a program sets up**, when the setup does not fail: the hub over the registered
tables with the settings' filter and no setters of its own, the format the settings name, the
settings' setters and cache, and a journal when one is kept. -/
theorem newLoader_ok {c : Config.Settings} {events : Bool} {r r' : Run} {l : Loader}
    (h : (newLoader c events).run.run r = (.ok l, r')) :
    ∃ f j, c.parsedFormat = .ok f ∧
      l = ⟨Hub.create registry ⟨filterOf c, [], if c.mutableCheck then some ⟨0, .logging⟩ else none,
        events⟩, f, c.loadSetters registry.names, c.cacheEnabled, j⟩ := by
  unfold newLoader at h
  rcases hpf : c.parsedFormat with e | f
  · simp only [hpf] at h
    obtain ⟨_, _, hfail, -⟩ := Step.run_bind_ok h
    cases hfail
  · simp only [hpf] at h
    obtain ⟨_, _, hpure, h⟩ := Step.run_bind_ok h
    cases hpure
    refine ⟨f, ?_⟩
    split at h
    · -- the journal opens, or the setup fails
      obtain ⟨_, _, -, h⟩ := Step.run_bind_ok h
      split at h
      · obtain ⟨_, _, -, h⟩ := Step.run_bind_ok h
        obtain ⟨_, _, -, h⟩ := Step.run_bind_ok h
        obtain ⟨_, _, hpure, h⟩ := Step.run_bind_ok h
        cases hpure
        cases h
        exact ⟨_, rfl, rfl⟩
      · obtain ⟨_, _, hfail, -⟩ := Step.run_bind_ok h
        cases hfail
    · obtain ⟨_, _, hpure, h⟩ := Step.run_bind_ok h
      cases hpure
      cases h
      exact ⟨_, rfl, rfl⟩

/-- A loader the program holds under settings `c`: a hub the program serves under `c`, loading
the format the settings name with the settings' own setters. -/
structure Loader.Of (c : Config.Settings) (l : Loader) : Prop where
  serves : Hub.Serves c l.hub
  format : c.parsedFormat = .ok l.format
  setters : l.setters = c.loadSetters registry.names

/-- A loader set up from the settings is held under them. -/
theorem newLoader_of {c : Config.Settings} {events : Bool} {r r' : Run} {l : Loader}
    (h : (newLoader c events).run.run r = (.ok l, r')) : l.Of c := by
  obtain ⟨f, j, hf, rfl⟩ := newLoader_ok h
  exact ⟨.create rfl, hf, rfl⟩

/-- Recording a load in the journal changes nothing else of the loader. -/
theorem Loader.Of.record {c : Config.Settings} {l : Loader} (hl : l.Of c) (r : Run) :
    ((l.record).run r).1.Of c := by
  unfold Loader.record
  split
  · next h rep _ _ =>
    simp only [StateT.run_bind]
    rcases hrec : h.record r.world.fs (Journal.Entry.ofReport rep) with e | ⟨h', fs, rr⟩
    · simp [files, hrec]
      exact hl
    · simp [files, hrec]
      exact ⟨hl.serves, hl.format, hl.setters⟩
  · exact hl

/-- **Every load keeps the loader held**: its request names the settings' format and setters,
followed by the cached reader over the files when the cache is on. -/
theorem Loader.Of.load {c : Config.Settings} {l : Loader} (hl : l.Of c) (dir : String)
    (timeout : Int) (r : Run) : ((l.load dir timeout).run r).1.1.Of c := by
  unfold Loader.load
  simp only [StateT.run_bind]
  refine Loader.Of.record (l := { l with hub := (l.hub.load _ _ _ _).1 })
    ⟨.load hl.serves _ _ _ _ ⟨hl.format, ?_⟩, hl.format, hl.setters⟩ _
  split
  · exact .inr ⟨_, by rw [hl.setters]⟩
  · exact .inl (by rw [hl.setters, List.append_nil])

/-- So under validated settings every report of a loader the program holds names only failures
to read. -/
theorem Loader.Of.reports_onlyReads {c : Config.Settings} (hv : c.validate = none) {l : Loader}
    (hl : l.Of c) :
    ∀ rep, l.hub.report? = some rep → ∀ r ∈ rep.tables, ∀ e, r.fault = some e → e.OnlyReads :=
  (hl.serves.served hv).reports

end Command

end ConfigTables
