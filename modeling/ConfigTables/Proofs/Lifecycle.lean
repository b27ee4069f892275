import Mathlib
import ConfigTables.Proofs.LoadCycle
/-!
# The lifecycle of a hub

A program creates a hub and then loads and reloads it, call after call. Between calls a hub's
state should be the one its last snapshot records: idle before the first snapshot, then ready or
failed as the last report says, with failures named exactly when it failed.

* `Hub.Lawful`: that law, for one hub; `Hub.Lawful.failures_eq_none_iff` reads the failures off
  it.
* `Reachable.lawful`: **when every accepted constructor gives a table, the law holds of every
  hub a program reaches**, whatever it loads, reloads, cancels or fails.
* `Hub.load_of_build_failure`, `Reachable.stuck_loading`: the law has one gap. The state is
  marked loading before the tables are built, and a build that stops (a constructor that gives
  no table) leaves it so: such a hub never publishes a snapshot and stays loading from its first
  load on.
* `reachable_lawful_iff_builds`: so the law holds of every hub a program reaches exactly when
  every accepted constructor gives a table.
* `Hub.reload_eq_load`: a reload repeats the last load's request exactly, whether that load
  failed or not; before any load it fails with `hub has not loaded` and changes nothing.
-/

namespace ConfigTables.Hub

/-! ## §1 — calls and the hubs they reach -/

/-- A call a program makes on a hub: a load of a request, or a reload. -/
inductive Call where
  | load (fs : Files.Tree) (req : Request) (stamp : Stamp) (ctx : Context)
  | reload (fs : Files.Tree) (stamp : Stamp) (ctx : Context)

/-- What a call gives back and leaves. -/
def Call.run (h : Hub) : Call → Hub × Except String (Option Fault) × Trail
  | .load fs req stamp ctx => h.load fs req stamp ctx
  | .reload fs stamp ctx => h.reload fs stamp ctx

/-- The hubs a program reaches by creating a hub over a registry and settings and calling it. -/
inductive Reachable (r : Registry) (s : Settings) : Hub → Prop
  | create : Reachable r s (Hub.create r s)
  | call {h : Hub} (hh : Reachable r s h) (c : Call) : Reachable r s (c.run h).1

/-- The state a hub's snapshot records: idle before the first snapshot, then the state of the
last report. -/
def recorded (h : Hub) : State := (h.current.map (·.report.state)).getD .idle

/-- A snapshot as a load publishes it: its report is ready or failed, and failed exactly when
the snapshot names failures. -/
structure Snapshot.Settled (s : Snapshot) : Prop where
  state : s.report.state = .ready ∨ s.report.state = .failed
  failures : s.failures.isSome ↔ s.report.state = .failed

/-- **The lifecycle law**: the state is the one the last snapshot records, and that snapshot is
settled. -/
structure Lawful (h : Hub) : Prop where
  state : h.state = h.recorded
  settled : ∀ s, h.current = some s → s.Settled

/-- Under the law, a hub names no failures exactly when it has no snapshot or it is ready. -/
theorem Lawful.failures_eq_none_iff {h : Hub} (hl : h.Lawful) :
    h.failures = none ↔ h.current = none ∨ h.recorded = .ready := by
  rcases hc : h.current with _ | s
  · simp [Hub.failures, hc]
  · have hs := hl.settled s hc
    simp only [Hub.failures, hc, Option.bind_some, Hub.recorded, Option.map_some,
      Option.getD_some, reduceCtorEq, false_or]
    rw [← Option.not_isSome_iff_eq_none, hs.failures]
    rcases hs.state with h' | h' <;> simp [h']

theorem create_lawful (r : Registry) (s : Settings) : (Hub.create r s).Lawful :=
  ⟨rfl, fun _ h => by cases h⟩

/-! ## §2 — one call -/

section Calls

variable (fs : Files.Tree) (req : Request) (stamp : Stamp) (ctx : Context)

/-- Settling a load publishes a settled snapshot and sets the state it records. -/
theorem settle_lawful (h : Hub) (logs0 : List Log.Record) (p : Pass) :
    (h.settle req stamp logs0 p).1.Lawful := by
  constructor
  · rfl
  · rintro s hs
    cases hs
    constructor
    · dsimp only
      split <;> simp
    · dsimp only
      split <;> simp_all

/-- **A load whose tables all build leaves the hub lawful**, whatever held before. -/
theorem load_lawful {h : Hub} (hb : h.Builds) : (h.load fs req stamp ctx).1.Lawful := by
  rw [load_eq hb]
  exact Hub.settle_lawful req stamp _ _ _

/-- A load builds its tables in the hub's own registry and filter, which no call changes. -/
@[simp] theorem load_registry (h : Hub) :
    (h.load fs req stamp ctx).1.registry = h.registry := by
  unfold Hub.load Hub.cycle
  dsimp only
  split <;> rfl

@[simp] theorem load_settings (h : Hub) :
    (h.load fs req stamp ctx).1.settings = h.settings := by
  unfold Hub.load Hub.cycle
  dsimp only
  split <;> rfl

/-- Every load keeps its request for reloads, whatever it did. -/
@[simp] theorem load_last (h : Hub) : (h.load fs req stamp ctx).1.last = some req := by
  unfold Hub.load Hub.cycle
  dsimp only
  split <;> rfl

/-- Before any load, a reload fails with `hub has not loaded` and changes nothing. -/
theorem reload_of_none {h : Hub} (hl : h.last = none) :
    h.reload fs stamp ctx = (h, .ok (some (.sentinel .notLoaded)), ⟨[], []⟩) := by
  simp [Hub.reload, hl]

/-- **A reload repeats the last load exactly**, with its directory, format and setters, also
when that load failed. -/
theorem reload_eq_load {h : Hub} (hl : h.last = some req) :
    h.reload fs stamp ctx = h.load fs req stamp ctx := by
  -- loading again under the kept request changes nothing before the cycle
  have hkeep : ({ h with last := some req } : Hub) = h := by
    rw [← hl]
  simp [Hub.reload, hl, Hub.load, hkeep]

/-- A reload leaves what the load of the kept request leaves, or the hub itself before any
load. -/
theorem reload_cases (h : Hub) :
    (h.last = none ∧ (h.reload fs stamp ctx).1 = h) ∨
      ∃ req, h.last = some req ∧ h.reload fs stamp ctx = h.load fs req stamp ctx := by
  rcases hl : h.last with _ | req
  · exact .inl ⟨rfl, by rw [Hub.reload_of_none fs stamp ctx hl]⟩
  · exact .inr ⟨req, rfl, Hub.reload_eq_load fs req stamp ctx hl⟩

/-- What one call leaves when the hub's tables all build: lawful again, under the same registry
and settings. -/
theorem Call.run_lawful {h : Hub} (hb : h.Builds) (hl : h.Lawful) (c : Call) :
    (c.run h).1.Lawful ∧ (c.run h).1.registry = h.registry ∧
      (c.run h).1.settings = h.settings := by
  cases c with
  | load fs req stamp ctx =>
    exact ⟨Hub.load_lawful fs req stamp ctx hb, by simp [Call.run], by simp [Call.run]⟩
  | reload fs stamp ctx =>
    rcases Hub.reload_cases fs stamp ctx h with ⟨-, hr⟩ | ⟨req, -, hr⟩
    · simp only [Call.run]
      rw [hr]
      exact ⟨hl, rfl, rfl⟩
    · simp only [Call.run, hr]
      exact ⟨Hub.load_lawful fs req stamp ctx hb, by simp, by simp⟩

/-- **A build that stops leaves the hub loading.** When a constructor gives no table, the load
stops abruptly before any table is read: the hub keeps its snapshot and the request, and its
state stays loading. -/
theorem load_of_build_failure {h : Hub} {v : String} (he : h.instantiate.1 = .error v) :
    h.load fs req stamp ctx =
      ({ h with last := some req, state := .loading }, .error v, ⟨h.instantiate.2, []⟩) := by
  unfold Hub.load Hub.cycle
  -- marking the hub changes neither its registry nor its filter, so the build fails alike
  have he' : ({ h with last := some req, state := .loading } : Hub).instantiate =
      (.error v, h.instantiate.2) := by
    rw [← he]
    rfl
  dsimp only
  rw [he']

end Calls

/-! ## §3 — every hub a program reaches -/

section Runs

variable {r : Registry} {s : Settings}

/-- Calls keep the registry and settings of the hub a program created. -/
theorem Reachable.registry_settings {h : Hub} (hh : Reachable r s h) :
    h.registry = r ∧ h.settings = s := by
  induction hh with
  | create => exact ⟨rfl, rfl⟩
  | @call h hh c ih =>
    cases c with
    | load fs req stamp ctx => simpa [Call.run] using ih
    | reload fs stamp ctx =>
      rcases Hub.reload_cases fs stamp ctx h with ⟨-, hr⟩ | ⟨req, -, hr⟩
      · simpa [Call.run, hr] using ih
      · simpa [Call.run, hr] using ih

/-- Whether a hub's tables build depends only on its registry and settings. -/
theorem builds_congr {h h' : Hub} (hr : h'.registry = h.registry)
    (hs : h'.settings = h.settings) (hb : h.Builds) : h'.Builds := by
  have hacc : h'.accepted = h.accepted := by simp [Hub.accepted, hr, hs]
  intro e he
  exact hb e (hacc ▸ he)

/-- A hub a program reaches builds its tables exactly when the hub it created does. -/
theorem Reachable.builds_iff {h : Hub} (hh : Reachable r s h) :
    h.Builds ↔ (Hub.create r s).Builds := by
  obtain ⟨hreg, hset⟩ := hh.registry_settings
  exact ⟨Hub.builds_congr (by rw [hreg]; rfl) (by rw [hset]; rfl),
    Hub.builds_congr (by rw [hreg]; rfl) (by rw [hset]; rfl)⟩

/-- **The lifecycle law holds along every run whose tables build.** When every constructor a
new hub accepts gives a table, every hub a program reaches from it by loads and reloads is
lawful: its state is idle before the first snapshot and afterwards the state of the last report,
ready or failed, and it names failures exactly when that report failed. -/
theorem Reachable.lawful (hb : (Hub.create r s).Builds) {h : Hub} (hh : Reachable r s h) :
    h.Lawful := by
  induction hh with
  | create => exact Hub.create_lawful r s
  | @call h hh c ih => exact (Call.run_lawful (hh.builds_iff.mpr hb) ih c).1

/-- A build of accepted constructors that do not all give tables fails. -/
theorem instantiate_error_of_not_builds {h : Hub} (hb : ¬ h.Builds) :
    ∃ v, h.instantiate.1 = .error v := by
  rcases he : h.instantiate.1 with v | ts
  · exact ⟨v, rfl⟩
  · exact absurd (builds_of_foldl_buildStep he) hb

/-- **Where the law fails.** When some constructor a new hub accepts gives no table, every hub
a program reaches has no snapshot, and from its first load on (once it keeps a request) its state
is loading although no load runs. -/
theorem Reachable.stuck_loading (hb : ¬ (Hub.create r s).Builds) {h : Hub}
    (hh : Reachable r s h) :
    h.current = none ∧ (h.last.isSome → h.state = .loading) ∧ (h.last = none → h.state = .idle) := by
  induction hh with
  | create => exact ⟨rfl, by simp [Hub.create], fun _ => rfl⟩
  | @call h hh c ih =>
    obtain ⟨v, he⟩ := Hub.instantiate_error_of_not_builds (mt hh.builds_iff.mp hb)
    cases c with
    | load fs req stamp ctx =>
      simp only [Call.run, Hub.load_of_build_failure fs req stamp ctx he]
      exact ⟨ih.1, by simp, by simp⟩
    | reload fs stamp ctx =>
      rcases Hub.reload_cases fs stamp ctx h with ⟨-, hr⟩ | ⟨req, -, hr⟩
      · simpa only [Call.run, hr] using ih
      · simp only [Call.run, hr, Hub.load_of_build_failure fs req stamp ctx he]
        exact ⟨ih.1, by simp, by simp⟩

/-- **The lifecycle law holds along every run exactly when the tables build.** Every hub a
program reaches from a new hub is lawful when each constructor the hub accepts gives a table;
when one gives none, the first load already leaves a hub marked loading with no snapshot. -/
theorem reachable_lawful_iff_builds (r : Registry) (s : Settings) :
    (∀ h, Reachable r s h → h.Lawful) ↔ (Hub.create r s).Builds := by
  constructor
  · intro hall
    by_contra hb
    -- one load strands the hub: its state says loading, its missing snapshot says idle
    let c : Call := .load .empty ⟨"", .json, []⟩ .unplaced .background
    have hh : Reachable r s (c.run (Hub.create r s)).1 := .call .create c
    obtain ⟨hnone, hloading, -⟩ := hh.stuck_loading hb
    have hstate := (hall _ hh).state
    rw [hloading (by simp [c, Call.run])] at hstate
    simp [Hub.recorded, hnone] at hstate
  · intro hb h hh
    exact hh.lawful hb

end Runs

end ConfigTables.Hub
