import Mathlib
import ConfigTables.Proofs.Lifecycle
/-!
# What the mutation check reports

A hub that checks mutations keeps, with the snapshot a load publishes, the canonical JSON text
of every table that could be written then. An explicit check writes every table again and
reports those whose text is no longer the one kept. This module says what that comes to after a
load and any number of changes made in place.

* `canonicalize_fst`: the texts kept are those of the tables that can be written, in table
  order; `find?_canonicalize` looks one up by name when names are distinct.
* `Hub.InPlace`: a hub whose tables were changed in place keeps its settings, its table names
  and the texts kept at the load (`Hub.inPlace_setTable`, `Hub.inPlace_edits`).
* `check_reports_changed_tables`: **after a load and any changes in place**, the check reports,
  in ascending order, exactly the loaded tables whose text was taken at the load and whose text
  now differs from it, a table that can no longer be written counting as changed; the recording
  handler sees one change per reported name, in that order, with the text kept and the text
  now; and when no table's text changed, nothing is reported.
-/

namespace ConfigTables.Hub

/-- The canonical text of a table: what the JSON codec writes of its payload, when it can. -/
def Table.canonicalText (t : Table) : Option String := (Codec.jsonText t.message).toOption

/-! ## §1 — the texts a snapshot keeps -/

/-- The canonical texts of a list of tables are those that can be written, in table order. -/
theorem canonicalize_fst (ts : List (String × Table)) :
    (canonicalize ts).1 = ts.filterMap fun e => e.2.canonicalText.map (e.1, ·) := by
  induction ts using List.reverseRecOn with
  | nil => rfl
  | append_singleton l e ih =>
    unfold canonicalize at ih ⊢
    rw [List.foldl_append, List.filterMap_append, ← ih]
    cases hj : Codec.jsonText e.2.message <;> simp [Table.canonicalText, hj, Except.toOption]

/-- Among tables of distinct names, the text kept under a name is that of the table of that
name, if it could be written. -/
theorem find?_canonicalize {ts : List (String × Table)} (hnd : (ts.map (·.1)).Nodup)
    (n : String) :
    ((canonicalize ts).1.find? (·.1 = n)).map (·.2) =
      (ts.find? (·.1 = n)).bind (·.2.canonicalText) := by
  rw [canonicalize_fst]
  induction ts with
  | nil => rfl
  | cons e rest ih =>
    rw [List.map_cons, List.nodup_cons] at hnd
    have ih := ih hnd.2
    cases ht : e.2.canonicalText with
    | none =>
      rw [List.filterMap_cons_none (by simp [ht]), ih, List.find?_cons]
      by_cases hn : e.1 = n
      · -- the first table carries the name; no later one does
        have hrest : rest.find? (·.1 = n) = none := by
          rw [List.find?_eq_none]
          intro x hx hxn
          exact hnd.1 (hn ▸ (of_decide_eq_true hxn) ▸ List.mem_map_of_mem hx)
        simp [hn, ht, hrest]
      · simp [hn]
    | some o =>
      rw [List.filterMap_cons_some (b := (e.1, o)) (by simp [ht]), List.find?_cons, List.find?_cons]
      by_cases hn : e.1 = n
      · simp [hn, ht]
      · simp only [hn, decide_false]
        exact ih

/-! ## §2 — changes in place -/

/-- `g'` is `g` with tables changed in place: the same settings, a snapshot exactly when `g` has
one, the same table names and the same texts kept at the load. -/
structure InPlace (g g' : Hub) : Prop where
  settings : g'.settings = g.settings
  loaded : g'.current.isSome = g.current.isSome
  names : g'.tables.map (·.1) = g.tables.map (·.1)
  originals : g'.current.map (·.originals) = g.current.map (·.originals)

theorem InPlace.refl (g : Hub) : g.InPlace g := ⟨rfl, rfl, rfl, rfl⟩

theorem InPlace.trans {g g' g'' : Hub} (h : g.InPlace g') (h' : g'.InPlace g'') :
    g.InPlace g'' :=
  ⟨h'.settings.trans h.settings, h'.loaded.trans h.loaded, h'.names.trans h.names,
    h'.originals.trans h.originals⟩

/-- Putting a table back under a name is a change in place. -/
theorem inPlace_setTable (g : Hub) (n : String) (t : Table) : g.InPlace (g.setTable n t) := by
  refine ⟨rfl, ?_, ?_, ?_⟩
  · cases hc : g.current <;> simp [Hub.setTable, hc]
  · cases hc : g.current with
    | none => simp [Hub.tables, Hub.setTable, hc]
    | some s =>
      simp only [Hub.tables, Hub.setTable, hc, Option.map_some, Option.getD_some, List.map_map]
      congr 1
      funext e
      by_cases he : e.1 = n <;> simp [he]
  · cases hc : g.current <;> simp [Hub.setTable, hc]

/-- Any sequence of tables put back under names is a change in place. -/
theorem inPlace_edits (edits : List (String × Table)) (g : Hub) :
    g.InPlace (edits.foldl (fun g e => g.setTable e.1 e.2) g) := by
  induction edits generalizing g with
  | nil => exact Hub.InPlace.refl g
  | cons e rest ih => exact (Hub.inPlace_setTable g e.1 e.2).trans (ih _)

/-- **What the check finds in a hub changed in place.** When the snapshot of `g` kept the
canonical texts of its tables, of distinct names, the changes found in a hub changed in place
from it are the tables of `g` whose text was kept and differs from that of the table of the same
name now, with both texts. -/
theorem changes_of_inPlace {g g' : Hub} (hg : g.InPlace g') {w : Watch}
    (hm : g.settings.mutation = some w) {s : Snapshot} (hs : g.current = some s)
    (hkept : s.originals = (canonicalize s.tables).1) (hnd : (s.tables.map (·.1)).Nodup) :
    g'.changes = s.tables.filterMap fun e => e.2.canonicalText.bind fun o =>
      let cur := (g'.get? e.1).bind Table.canonicalText
      if cur = some o then none else some ⟨e.1, o, cur⟩ := by
  obtain ⟨s', hs'⟩ : ∃ s', g'.current = some s' :=
    Option.isSome_iff_exists.mp (by simpa [hs] using hg.loaded)
  have hkept' : s'.originals = s.originals := by
    simpa [hs, hs'] using hg.originals
  have hnames : s'.tables.map (·.1) = s.tables.map (·.1) := by
    simpa [Hub.tables, hs, hs'] using hg.names
  -- the text found now under a name is the text of the table served under it
  have hcur : ∀ n, ((canonicalize s'.tables).1.find? (·.1 = n)).map (·.2) =
      (g'.get? n).bind Table.canonicalText := by
    intro n
    rw [find?_canonicalize (hnames ▸ hnd)]
    simp [Hub.get?, Hub.tables, hs', Option.bind_map]
  unfold Hub.changes
  rw [hg.settings, hm, hs']
  dsimp only
  simp only [hcur]
  rw [hkept', hkept, canonicalize_fst, List.filterMap_filterMap]
  congr 1
  funext e
  cases e.2.canonicalText <;> rfl

/-! ## §3 — after a load -/

section Load

variable {h : Hub} (fs : Files.Tree) (req : Request) (stamp : Stamp) (ctx : Context)

/-- A load of a hub that checks mutations keeps the canonical texts of the tables it
publishes. -/
theorem load_originals (hb : h.Builds) (hm : h.settings.mutation.isSome) :
    ∃ s, (h.load fs req stamp ctx).1.current = some s ∧
      s.originals = (canonicalize s.tables).1 := by
  rw [load_eq hb]
  simp [Hub.settle, hm]

end Load

/-! ## §4 — the check -/

/-- Whether a table whose text was kept shows another text in hub `H`: the table served under
its name now has a different text, or none. A table with no text kept never changed. -/
def changedSince (H : Hub) (e : String × Table) : Bool :=
  match e.2.canonicalText with
  | some o => (H.get? e.1).bind Table.canonicalText != some o
  | none => false

/-- What the check says of a table whose text was kept: its name, the text kept, and the text
of the table served under its name in hub `H`. -/
def changeOf (H : Hub) (e : String × Table) : Option Change :=
  e.2.canonicalText.map fun o => ⟨e.1, o, (H.get? e.1).bind Table.canonicalText⟩

/-- The changes found are those of the tables changed since the texts were kept. -/
theorem changes_filter {g H : Hub} (hg : g.InPlace H) {w : Watch}
    (hm : g.settings.mutation = some w) {s : Snapshot} (hs : g.current = some s)
    (hkept : s.originals = (canonicalize s.tables).1) (hnd : (s.tables.map (·.1)).Nodup) :
    H.changes = (s.tables.filter H.changedSince).filterMap H.changeOf := by
  rw [Hub.changes_of_inPlace hg hm hs hkept hnd, List.filterMap_filter]
  congr 1
  funext e
  unfold Hub.changedSince Hub.changeOf
  cases e.2.canonicalText with
  | none => rfl
  | some o => by_cases hc : (H.get? e.1).bind Table.canonicalText = some o <;> simp [hc]

/-- Every table called changed has a change, so the changes name exactly those tables. -/
theorem changes_names (H : Hub) (l : List (String × Table)) :
    ((l.filter H.changedSince).filterMap H.changeOf).map (·.name) =
      (l.filter H.changedSince).map (·.1) := by
  rw [List.map_filterMap, List.filterMap_eq_map_iff_forall_eq_some]
  intro e he
  have hch := (List.mem_filter.mp he).2
  unfold Hub.changedSince at hch
  unfold Hub.changeOf
  cases ht : e.2.canonicalText with
  | none => simp [ht] at hch
  | some o => rfl

/-- **The mutation check after a load and any changes in place.** Let a hub over an ordered
registry whose accepted constructors all give tables, checking mutations, load, and let any
tables then be put back under their names. The check reports, in ascending order, exactly the
loaded tables whose text was kept at the load and whose table now shows another text or none;
the recording handler sees one change per reported name, in that order, with the text kept and
the text now, and the logging one none; and when every name shows the text it showed after the
load, the check reports nothing. -/
theorem check_reports_changed_tables {h : Hub} (hr : h.registry.Ordered) (hb : h.Builds)
    {w : Watch} (hm : h.settings.mutation = some w) (fs : Files.Tree) (req : Request)
    (stamp : Stamp) (ctx : Context) (edits : List (String × Table)) :
    let L := (h.load fs req stamp ctx).1
    let H := edits.foldl (fun g e => g.setTable e.1 e.2) L
    H.checkMutations.1 = (L.tables.filter H.changedSince).map (·.1) ∧
      H.checkMutations.1.Pairwise (· < ·) ∧
      H.checkMutations.2 = (if w.handler = .recording then
          (L.tables.filter H.changedSince).filterMap H.changeOf else []) ∧
      ((∀ n, (H.get? n).bind Table.canonicalText = (L.get? n).bind Table.canonicalText) →
        H.checkMutations = ([], [])) := by
  intro L H
  obtain ⟨s, hs, hkept⟩ := Hub.load_originals fs req stamp ctx hb (by simp [hm])
  have hL : L.tables = s.tables := by simp [L, Hub.tables, hs]
  have hsorted : (L.tables.map (·.1)).Pairwise (· < ·) := by
    rw [Hub.load_names fs req stamp ctx hb]
    exact Hub.accepted_ordered hr
  have hnd : (s.tables.map (·.1)).Nodup := hL ▸ hsorted.nodup
  have hmL : L.settings.mutation = some w := by
    rw [Hub.load_settings, hm]
  have hchanges := Hub.changes_filter (Hub.inPlace_edits edits L) hmL hs hkept hnd
  have hmH : H.settings.mutation = some w := by rw [(Hub.inPlace_edits edits L).settings, hmL]
  -- the check reports the names of the changes found, and the recording handler sees them
  have hcheck : H.checkMutations = ((L.tables.filter H.changedSince).map (·.1),
      if w.handler = .recording then (L.tables.filter H.changedSince).filterMap H.changeOf
      else []) := by
    obtain ⟨ms, handler⟩ := w
    unfold Hub.checkMutations
    rw [hchanges, hmH, hL]
    dsimp only
    rw [Hub.changes_names]
    cases handler <;> rfl
  refine ⟨by rw [hcheck], ?_, by rw [hcheck], fun hsame => ?_⟩
  · rw [hcheck]
    exact hsorted.sublist ((List.filter_sublist).map _)
  · -- every loaded table shows the text kept, so none changed
    have hnone : L.tables.filter H.changedSince = [] := by
      rw [List.filter_eq_nil_iff]
      intro e he
      have hget : L.get? e.1 = some e.2 := by
        simp [Hub.get?, hL, find?_name_of_mem (n := e.1) (t := e.2) hnd (hL ▸ he)]
      unfold Hub.changedSince
      cases ht : e.2.canonicalText with
      | none => simp
      | some o => simp [hsame, hget, ht]
    rw [hcheck, hnone]
    simp

/-- The program's own tables, loaded from an empty tree by a hub with the recording check, meet
the theorem's hypotheses: with no change made, the check reports exactly the loaded tables whose
text changed. -/
theorem registry_check_after_load :
    let h := Hub.create Command.registry ⟨.all, [], some ⟨0, .recording⟩, false⟩
    let L := (h.load .empty ⟨"conf", .json, []⟩ .unplaced .background).1
    h.registry.Ordered ∧ h.Builds ∧ h.settings.mutation = some ⟨0, .recording⟩ ∧
      L.checkMutations.1 = (L.tables.filter L.changedSince).map (·.1) :=
  ⟨registry_ordered, Hub.create_registry_builds _, rfl,
    (check_reports_changed_tables registry_ordered (Hub.create_registry_builds _) rfl .empty
      ⟨"conf", .json, []⟩ .unplaced .background []).1⟩

end ConfigTables.Hub
