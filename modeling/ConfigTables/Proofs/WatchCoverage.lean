import Mathlib
import ConfigTables.Proofs.LoadReads
import ConfigTables.Proofs.PathKeys
import ConfigTables.Command.Run
/-!
# Hot reload watches every file a load reads

The watch command loads the tables, watches a list of directories (not below them), and reloads
whenever a batch of events touches a table file in one of them. Which files a load reads is decided
by the load options, which files the watcher reports by the watched directories, the pinned files
and the table names; under settings that validated the two line up:

* `known_split`: a path whose extension names a format ends in an element that names something,
  and cleaned it is that element under the path's directory.
* `Watch.Config.change_join`: an event named after a watched directory and such a file's name,
  other than a change of mode, makes the batch it is in report the file, whenever the file is
  pinned or named after a watched table.
* `watchDirs_head`, `watchDirs_nodup`, `watchDirs_pairwise`: the directories watched are those the
  settings name (`watchSources`), each once, in the order first named, the table directory first.
* `reads_covered`: every file a load of a registered table may read has an extension that names a
  format, lies in a watched directory, and is pinned or named after its table.
* `Command.watchDirs_run`: the command watches the table directory and every other directory that
  exists.
* `reload_watches_every_read`: all of it together, with `Load.loadMessage_frame`: no other file
  changes what the load gives.
-/

namespace ConfigTables

/-! ## §1 — the last element of a path -/

namespace Files.Path

/-- Read backwards, a text without a slash still has none. -/
theorem ne_slash_of_mem_reverse {e : String} (he : '/' ∉ e.toList) :
    ∀ c ∈ e.toList.reverse, c ≠ '/' :=
  fun _ hc h => he (List.mem_reverse.mp (h ▸ hc))

theorem dir_of_not_mem {e : String} (he : '/' ∉ e.toList) : dir e = "." := by
  have hdrop : e.toList.reverse.dropWhile (· ≠ '/') = [] := by
    rw [List.dropWhile_eq_nil_iff]
    intro c hc
    simpa using ne_slash_of_mem_reverse he c hc
  simp only [dir, hdrop, List.reverse_nil]
  rfl

/-- The directory of a path with a slash is everything up to its last slash, cleaned. -/
theorem dir_append_slash (a : String) {e : String} (he : '/' ∉ e.toList) :
    dir (a ++ "/" ++ e) = clean (a ++ "/") := by
  have hall : ∀ c ∈ e.toList.reverse, decide (c ≠ '/') = true := fun c hc => by
    simpa using ne_slash_of_mem_reverse he c hc
  have hdrop : (a ++ "/" ++ e).toList.reverse.dropWhile (· ≠ '/') = '/' :: a.toList.reverse := by
    simp only [String.toList_append, List.reverse_append, show "/".toList = ['/'] from rfl,
      List.reverse_cons, List.append_assoc, List.singleton_append]
    rw [List.dropWhile_append_of_pos hall, List.dropWhile_cons_of_neg (by simp)]
  unfold dir
  rw [hdrop]
  apply String.ext
  simp

/-- A trailing slash changes nothing once cleaned. -/
theorem clean_append_slash {c : String} (hc : c ≠ "") : clean (c ++ "/") = clean c := by
  have hne : c ++ "/" ≠ "" := by simp
  have hel : elements (c ++ "/") = elements c ++ [""] := by
    rw [show c ++ "/" = c ++ "/" ++ "" from String.append_empty.symm, elements_append_slash]
    rfl
  rw [clean_eq_render hne, clean_eq_render hc, startsWith_slash_of_ne hc, hel, resolve_append,
    show resolve _ _ [""] = _ from resolve_empty _ _ []]
  rfl

theorem base_of_plain {x : String} (hx : Plain x) : base x = x := by
  obtain ⟨c, cs, hc⟩ := List.exists_cons_of_ne_nil (by simpa using hx.1 : x.toList.reverse ≠ [])
  have hnot := ne_slash_of_mem_reverse hx.2.2.2
  have hdrop : x.toList.reverse.dropWhile (· = '/') = x.toList.reverse := by
    rw [hc, List.dropWhile_cons_of_neg (by simpa using hnot c (hc ▸ List.mem_cons_self))]
  have htake : x.toList.reverse.takeWhile (· ≠ '/') = x.toList.reverse :=
    List.takeWhile_eq_self_iff.mpr fun y hy => by simpa using hnot y hy
  unfold base
  rw [if_neg hx.1, hdrop, if_neg (by simpa using hx.1), htake]
  simp

/-- The last element of a path with a slash is what follows the last slash. -/
theorem base_append_slash (a : String) {x : String} (hx : Plain x) : base (a ++ "/" ++ x) = x := by
  obtain ⟨c, cs, hc⟩ := List.exists_cons_of_ne_nil (by simpa using hx.1 : x.toList.reverse ≠ [])
  have hnot := ne_slash_of_mem_reverse hx.2.2.2
  have hrev : (a ++ "/" ++ x).toList.reverse = x.toList.reverse ++ '/' :: a.toList.reverse := by
    simp [String.toList_append, show "/".toList = ['/'] from rfl]
  have hdrop : (x.toList.reverse ++ '/' :: a.toList.reverse).dropWhile (· = '/') =
      x.toList.reverse ++ '/' :: a.toList.reverse := by
    rw [hc, List.cons_append, List.dropWhile_cons_of_neg (by simpa using hnot c (hc ▸ List.mem_cons_self))]
  have htake : (x.toList.reverse ++ '/' :: a.toList.reverse).takeWhile (· ≠ '/') = x.toList.reverse := by
    rw [List.takeWhile_append_of_pos (fun y hy => by simpa using hnot y hy),
      List.takeWhile_cons_of_neg (by simp), List.append_nil]
  have hne : a ++ "/" ++ x ≠ "" := by simp
  unfold base
  rw [if_neg hne, hrev, hdrop, if_neg (by simp), htake]
  simp

/-- A path is its last element alone, or some front, a slash and its last element. -/
theorem eq_last (q : String) : ∃ e, '/' ∉ e.toList ∧ (q = e ∨ ∃ a, q = a ++ "/" ++ e) := by
  by_cases hs : '/' ∈ q.toList.reverse
  · -- the first slash of the reversed path is its last one
    obtain ⟨T, D, hR, hT⟩ := List.eq_append_cons_of_mem hs
    refine ⟨String.ofList T.reverse, by simpa using hT, .inr ⟨String.ofList D.reverse, ?_⟩⟩
    apply String.ext
    have hq : q.toList = D.reverse ++ '/' :: T.reverse := by
      simpa using congrArg List.reverse hR
    simp [hq, String.toList_append, show "/".toList = ['/'] from rfl]
  · exact ⟨q, by simpa using hs, .inl rfl⟩

theorem clean_slash_plain {x : String} (hx : Plain x) : clean ("/" ++ x) = "/" ++ x := by
  rw [clean_eq_render (by simp), slash_append_startsWith, elements_slash, hx.elements_eq,
    resolve_empty, resolve_plain _ _ hx.1 hx.2.1 hx.2.2.1]
  simp [render]

/-- The directory of a path is clean. -/
theorem clean_dir (q : String) : clean (dir q) = dir q := clean_clean _

/-- A path's last element names something when its extension names a format. -/
theorem plain_of_known {e : String} (hs : '/' ∉ e.toList) (h : Format.ofPath e ≠ .unknown) :
    Plain e := by
  refine ⟨?_, ?_, ?_, hs⟩ <;> rintro rfl <;> exact h (by decide +kernel)

/-- **A path whose extension names a format, cleaned, is its last element under its
directory**; that element names something and has the path's format. -/
theorem known_split {q : String} (hq : Format.ofPath q ≠ .unknown) :
    Plain (base q) ∧ clean q = child (dir q) (base q) ∧ Format.ofPath (base q) = Format.ofPath q := by
  obtain ⟨e, hs, rfl | ⟨a, rfl⟩⟩ := eq_last q
  · have he := plain_of_known hs hq
    rw [base_of_plain he, dir_of_not_mem hs, he.clean_eq]
    exact ⟨he, by simp [child], rfl⟩
  · have hext : Format.ofPath (a ++ "/" ++ e) = Format.ofPath e :=
      Format.ofPath_congr (ext_append_slash a e)
    have he := plain_of_known hs (hext ▸ hq)
    rw [base_append_slash a he, dir_append_slash a hs]
    refine ⟨he, ?_, hext.symm⟩
    by_cases ha : a = ""
    · -- a rooted file: its directory is the root
      subst ha
      have hroot : clean ("" ++ "/") = "/" := by decide +kernel
      rw [hroot, String.empty_append, clean_slash_plain he]
      simp [child]
    · rw [clean_child ha he, clean_append_slash ha]

theorem dir_child {c x : String} (hc : clean c = c) (hx : Plain x) : dir (child c x) = c := by
  have hc0 : c ≠ "" := fun h => clean_ne_empty c (hc.trans h)
  unfold child
  split_ifs with h1 h2
  · rw [dir_of_not_mem hx.2.2.2, h1]
  · rw [h2, show "/" ++ x = "" ++ "/" ++ x from rfl, dir_append_slash _ hx.2.2.2]
    decide +kernel
  · rw [dir_append_slash _ hx.2.2.2, clean_append_slash hc0, hc]

theorem base_child (c : String) {x : String} (hx : Plain x) : base (child c x) = x := by
  unfold child
  split_ifs
  · exact base_of_plain hx
  · exact base_append_slash "" hx
  · exact base_append_slash c hx

/-- Joining an element that names something under a directory puts it under the cleaned
directory. -/
theorem join_plain (d : String) {x : String} (hx : Plain x) : join [d, x] = child (clean d) x := by
  rcases join_pair d hx.1 with ⟨hj, rfl⟩ | ⟨hj, hd⟩
  · rw [hj, hx.clean_eq]
    simp [child, show clean "" = "." from rfl]
  · rw [hj, clean_child hd hx]

/-- The file named by a path whose extension names a format, joined back from its directory and
its last element, is the path cleaned. -/
theorem join_dir_base {q d : String} (hq : Format.ofPath q ≠ .unknown) (hd : clean d = dir q) :
    join [d, base q] = clean q := by
  obtain ⟨hb, hc, -⟩ := known_split hq
  rw [join_plain d hb, hd, hc]

theorem dir_clean_of_known {q : String} (hq : Format.ofPath q ≠ .unknown) :
    dir (clean q) = dir q := by
  obtain ⟨hb, hc, -⟩ := known_split hq
  rw [hc]
  exact dir_child (clean_dir q) hb

end Files.Path

/-! ## §2 — first occurrences -/

/-- The first occurrence of each element of a list, in order: a fold that appends what it has not
seen yet. -/
def firstSeen (l : List String) : List String :=
  l.foldl (fun acc d => if acc.contains d then acc else acc ++ [d]) []

theorem firstSeen_snoc (l : List String) (x : String) :
    firstSeen (l ++ [x]) = if (firstSeen l).contains x then firstSeen l else firstSeen l ++ [x] := by
  rw [firstSeen, List.foldl_append]
  rfl

theorem mem_firstSeen {l : List String} {x : String} : x ∈ firstSeen l ↔ x ∈ l := by
  induction l using List.reverseRecOn generalizing x with
  | nil => simp [firstSeen]
  | append_singleton l y ih =>
    rw [firstSeen_snoc]
    split_ifs with h
    · -- `y` was seen already
      have hy : y ∈ l := ih.mp (by simpa using h)
      simp only [List.mem_append, List.mem_singleton, ih]
      constructor
      · exact .inl
      · rintro (hx | rfl)
        · exact hx
        · exact hy
    · simp [ih]

/-- **The first occurrences keep the order in which elements are first seen.** -/
theorem firstSeen_pairwise (l : List String) :
    (firstSeen l).Pairwise (fun a b => l.idxOf a < l.idxOf b) := by
  induction l using List.reverseRecOn with
  | nil => simp [firstSeen]
  | append_singleton l y ih =>
    -- the positions of the elements seen so far do not move when `y` is added
    have hkeep : (firstSeen l).Pairwise (fun a b => (l ++ [y]).idxOf a < (l ++ [y]).idxOf b) := by
      refine ih.imp_of_mem fun ha hb hab => ?_
      rw [List.idxOf_append_of_mem (mem_firstSeen.mp ha), List.idxOf_append_of_mem (mem_firstSeen.mp hb)]
      exact hab
    rw [firstSeen_snoc]
    split_ifs with h
    · exact hkeep
    · have hy : y ∉ l := fun hy => h (by simpa using mem_firstSeen.mpr hy)
      refine List.pairwise_append.mpr ⟨hkeep, List.pairwise_singleton _ _, ?_⟩
      intro a ha b hb
      rw [List.mem_singleton.mp hb, List.idxOf_append_of_mem (mem_firstSeen.mp ha),
        List.idxOf_append, if_neg hy, List.idxOf_cons_self, Nat.zero_add]
      simpa using List.idxOf_lt_length_of_mem (mem_firstSeen.mp ha)

theorem firstSeen_nodup (l : List String) : (firstSeen l).Nodup :=
  (firstSeen_pairwise l).imp fun hab h => by
    subst h
    exact lt_irrefl _ hab

theorem firstSeen_head? (l : List String) : (firstSeen l).head? = l.head? := by
  induction l using List.reverseRecOn with
  | nil => rfl
  | append_singleton l y ih =>
    rcases l with _ | ⟨z, l⟩
    · rfl
    · -- the first element is seen first and stays first
      have hne : firstSeen (z :: l) ≠ [] := by
        intro h
        have := mem_firstSeen.mpr (List.mem_cons_self (a := z) (l := l))
        simp [h] at this
      rw [firstSeen_snoc]
      split_ifs
      · simpa using ih
      · rw [List.head?_append_of_ne_nil _ hne]
        simpa using ih

/-! ## §3 — the watcher -/

namespace Watch

open Files.Path

variable {wc : Config} {q d : String}

/-- The watcher reports the event of a known file in a watched directory, named after the
directory and the file's name, as the directory and the name. -/
theorem Config.seen_join (hq : Format.ofPath q ≠ .unknown) (hd : d ∈ wc.dirs) (hdq : clean d = dir q)
    (op : Files.Op) :
    wc.seen ⟨join [d, base q], op⟩ = some (dir q ++ "/" ++ base q) := by
  obtain ⟨hb, -, -⟩ := known_split hq
  have hpath : join [d, base q] = clean q := join_dir_base hq hdq
  -- some watched directory cleans to the file's directory: the first one is reported
  obtain ⟨d', hfind⟩ : ∃ d', wc.dirs.find? (fun d' => clean d' = dir (clean (join [d, base q]))) =
      some d' := by
    rw [← Option.isSome_iff_exists, List.find?_isSome]
    exact ⟨d, hd, by simp [hpath, clean_clean, dir_clean_of_known hq, hdq]⟩
  have hd' : clean d' = dir q := by
    simpa [hpath, clean_clean, dir_clean_of_known hq] using List.find?_some hfind
  unfold Config.seen
  dsimp only
  rw [hfind, Option.map_some, hd', join_plain d hb, base_child _ hb]

/-- The watcher counts every event of a known file but a change of mode, when the file is listed
or named after a listed table. -/
theorem Config.counts_join (hq : Format.ofPath q ≠ .unknown) (hdq : clean d = dir q)
    (hname : q ∈ wc.files ∨ stem (base q) ∈ wc.tables) {op : Files.Op} (hop : op ≠ .chmod) :
    wc.counts ⟨join [d, base q], op⟩ = true := by
  obtain ⟨hb, -, hext⟩ := known_split hq
  have hpath : join [d, base q] = clean q := join_dir_base hq hdq
  have hbase : base (join [d, base q]) = base q := by rw [join_plain d hb, base_child _ hb]
  unfold Config.counts
  dsimp only
  rw [hbase, hext, hpath, clean_clean]
  simp [hop, hq]
  rcases hname with h | h
  · exact .inl (.inl ⟨q, h, rfl⟩)
  · exact .inr h

/-- **A batch with such an event reports the file.** The events of one quiet period that include
the event of a known file in a watched directory, other than a change of mode, make a change, and
the change names the file, when it is listed or named after a listed table. -/
theorem Config.change_join (hq : Format.ofPath q ≠ .unknown) (hd : d ∈ wc.dirs)
    (hdq : clean d = dir q) (hname : q ∈ wc.files ∨ stem (base q) ∈ wc.tables) {op : Files.Op}
    (hop : op ≠ .chmod) {events : List Files.Event} (he : ⟨join [d, base q], op⟩ ∈ events) :
    ∃ touched, change wc events = some touched ∧ dir q ++ "/" ++ base q ∈ touched := by
  have htouched : dir q ++ "/" ++ base q ∈
      events.filterMap (fun e => if wc.counts e then wc.seen e else none) :=
    List.mem_filterMap.mpr ⟨_, he, by rw [if_pos (Config.counts_join hq hdq hname hop),
      Config.seen_join hq hd hdq op]⟩
  have hfirst := mem_firstSeen.mpr htouched
  have hne : (firstSeen (events.filterMap fun e => if wc.counts e then wc.seen e else none)).isEmpty
      = false := by
    rw [List.isEmpty_eq_false_iff]
    exact List.ne_nil_of_mem hfirst
  have hchange : change wc events = some ((firstSeen (events.filterMap fun e =>
      if wc.counts e then wc.seen e else none)).mergeSort fun a b => decide (a ≤ b)) := by
    unfold change
    exact if_neg (ne_true_of_eq_false hne)
  exact ⟨_, hchange, List.mem_mergeSort.mpr hfirst⟩

end Watch

/-! ## §4 — the directories and files the settings watch -/

namespace Config.Settings

variable {c : Settings}

/-- The directories the settings name for table and patch files, in order and cleaned: the table
directory, the patch directories, then each table's file's directory and its patch files'. -/
def watchSources (c : Settings) : List String :=
  ([c.dir] ++ c.patchDirs ++ c.tables.flatMap fun e =>
    (if e.2.path ≠ "" then [Files.Path.dir e.2.path] else []) ++ e.2.patchPaths.map Files.Path.dir).map Files.Path.clean

theorem watchDirs_eq (c : Settings) : c.watchDirs = firstSeen c.watchSources := rfl

/-- The table directory is watched first. -/
theorem watchDirs_head (c : Settings) : c.watchDirs.head? = some (Files.Path.clean c.dir) := by
  rw [watchDirs_eq, firstSeen_head?]
  rfl

theorem watchDirs_nodup (c : Settings) : c.watchDirs.Nodup := firstSeen_nodup _

theorem watchDirs_pairwise (c : Settings) :
    c.watchDirs.Pairwise (fun a b => c.watchSources.idxOf a < c.watchSources.idxOf b) :=
  firstSeen_pairwise _

theorem mem_watchDirs {x : String} : x ∈ c.watchDirs ↔ x ∈ c.watchSources := mem_firstSeen

theorem clean_dir_mem_watchDirs : Files.Path.clean c.dir ∈ c.watchDirs :=
  mem_watchDirs.mpr (List.mem_map_of_mem (by simp))

theorem clean_mem_watchDirs_of_patchDir {d : String} (hd : d ∈ c.patchDirs) :
    Files.Path.clean d ∈ c.watchDirs :=
  mem_watchDirs.mpr (List.mem_map_of_mem (by simp [hd]))

/-- The directory of every table's file and patch file is watched. -/
theorem dir_mem_watchDirs_of_entry {e : String × TableSettings} (he : e ∈ c.tables) {q : String}
    (hq : (q = e.2.path ∧ q ≠ "") ∨ q ∈ e.2.patchPaths) : Files.Path.dir q ∈ c.watchDirs := by
  rw [← Files.Path.clean_dir q, mem_watchDirs]
  refine List.mem_map_of_mem (List.mem_append_right _ (List.mem_flatMap.mpr ⟨e, he, ?_⟩))
  rcases hq with ⟨rfl, hne⟩ | hq
  · simp [hne]
  · exact List.mem_append_right _ (List.mem_map_of_mem hq)

/-- A file the watch command reports under settings `c`: its extension names a format, its
directory is watched, and it is pinned or named after a registered table. -/
structure Covered (c : Settings) (q : String) : Prop where
  known : Format.ofPath q ≠ .unknown
  watched : Files.Path.dir q ∈ c.watchDirs
  named : q ∈ c.pinnedFiles ∨ Watch.stem (Files.Path.base q) ∈ Command.registry.names

/-- Every table's file and patch file is pinned. -/
theorem covered_of_entry {e : String × TableSettings} (he : e ∈ c.tables) {q : String}
    (hq : (q = e.2.path ∧ q ≠ "") ∨ q ∈ e.2.patchPaths) (hk : Format.ofPath q ≠ .unknown) :
    Covered c q := by
  refine ⟨hk, dir_mem_watchDirs_of_entry he hq, .inl (List.mem_flatMap.mpr ⟨e, he, ?_⟩)⟩
  rcases hq with ⟨rfl, hne⟩ | hq
  · simp [hne]
  · exact List.mem_append_right _ hq

/-- A registered table's name with a loadable format's extension names something, and its name
without the extension is the table's. -/
theorem registered_file {T : String} (hT : T ∈ Command.registry.names) {g : Format}
    (hg : g.loadable = true) : Files.Path.Plain (T ++ g.ext) ∧ Watch.stem (T ++ g.ext) = T := by
  have hnames : Command.registry.names = ["HeroConf", "ItemConf", "TaskConf", "ThemeConf"] := by
    simp [Hub.Registry.names, Hub.registry_entries]
  rw [hnames] at hT
  simp only [List.mem_cons, List.not_mem_nil, or_false] at hT
  cases g with
  | json | binary =>
    rcases hT with rfl | rfl | rfl | rfl <;>
      exact ⟨by unfold Files.Path.Plain; decide +kernel, by decide +kernel⟩
  | unknown | text => cases hg

/-- A registered table's file in a watched directory is reported. -/
theorem covered_of_named {T : String} (hT : T ∈ Command.registry.names) {g : Format}
    (hg : g.loadable = true) {d : String} (hd : Files.Path.clean d ∈ c.watchDirs) :
    Covered c (Files.Path.join [d, T ++ g.ext]) := by
  obtain ⟨hx, hstem⟩ := registered_file hT hg
  have hno : '/' ∉ T.toList := fun h => hx.2.2.2 (by simp [h])
  refine ⟨by rw [Format.ofPath_join hg d hno]; exact fun h => by cases g <;> simp_all [Format.loadable],
    ?_, .inr ?_⟩
  · rw [Files.Path.join_plain d hx, Files.Path.dir_child (Files.Path.clean_clean d) hx]
    exact hd
  · rw [Files.Path.join_plain d hx, Files.Path.base_child _ hx, hstem]
    exact hT

/-- The options the settings give table `T`. -/
def tableOptions (c : Settings) (T : String) : Load.TableOptions :=
  (Load.Options.ofSetters (c.loadSetters Command.registry.names)).forTable T

/-- Where a table's options come from: the global patch directories, and no file nor patch file
of its own, or those of one of the settings' table entries. -/
theorem tableOptions_source (c : Settings) (T : String) :
    (c.tableOptions T).shared.patchDirs = c.patchDirs ∧
      (((c.tableOptions T).path = "" ∧ (c.tableOptions T).patchPaths = []) ∨
        ∃ e ∈ c.tables, (c.tableOptions T).path = e.2.path ∧
          (c.tableOptions T).patchPaths = e.2.patchPaths) := by
  unfold tableOptions
  rcases hn : (Load.Options.ofSetters (c.loadSetters Command.registry.names)).override? T with _ | mo
  · rw [Load.Options.forTable_of_override?_none hn, ofSetters_loadSetters_shared]
    exact ⟨rfl, .inl ⟨rfl, rfl⟩⟩
  · obtain ⟨e, he, -, rfl⟩ := override?_loadSetters hn
    rw [Load.Options.forTable_of_override?_some hn, ofSetters_loadSetters_shared]
    exact ⟨rfl, .inr ⟨e, he, rfl, rfl⟩⟩

/-- Under settings that validated, the options of every table are readable. -/
theorem tableOptions_readable (hv : c.validate = none) {f : Format} (hf : c.parsedFormat = .ok f)
    (T : String) : (c.tableOptions T).Readable := by
  have hreq : c.Requests ⟨c.dir, f, c.loadSetters Command.registry.names⟩ := ⟨hf, .inl rfl⟩
  exact hreq.readable hv T

/-- **Every file a load of a registered table may read is reported**, under settings that
validated: the table's file in the table directory or the explicit file that replaces it, and
its patch candidates in the patch directories or its explicit patch files. -/
theorem reads_covered (hv : c.validate = none) {f : Format} (hf : c.parsedFormat = .ok f)
    {T : String} (hT : T ∈ Command.registry.names) :
    ∀ q ∈ Load.reads (c.tableOptions T) T c.dir f, Covered c q := by
  have hr := tableOptions_readable hv hf T
  obtain ⟨hdirs, hsrc⟩ := tableOptions_source c T
  -- the format the load chooses can be loaded
  have hg : ((c.tableOptions T).formatFor f).loadable = true := by
    unfold Load.TableOptions.formatFor
    split_ifs with hp
    · exact Format.loadable_of_ofPath (hr.path hp)
    · exact parsedFormat_loadable hf
  intro q hq
  rcases List.mem_cons.mp hq with rfl | hq
  · -- the table's file, or the explicit file replacing it
    rw [show Load.tablePath T c.dir f (some (c.tableOptions T)) =
      if (c.tableOptions T).path ≠ "" then (c.tableOptions T).path
      else Files.Path.join [c.dir, T ++ f.ext] from rfl]
    split_ifs with hp
    · obtain ⟨hnone, -⟩ | ⟨e, he, hpath, -⟩ := hsrc
      · exact absurd hnone hp
      · exact covered_of_entry he (.inl ⟨hpath, hp⟩) (hr.path hp)
    · have hf' : f.loadable = true := parsedFormat_loadable hf
      exact covered_of_named hT hf' clean_dir_mem_watchDirs
  · -- a patch candidate, or an explicit patch file
    unfold Load.patchCandidates at hq
    split_ifs at hq with hp
    · obtain ⟨d, hd, rfl⟩ := List.mem_map.mp hq
      rw [hdirs] at hd
      exact covered_of_named hT hg (clean_mem_watchDirs_of_patchDir hd)
    · obtain ⟨hpath, hpp⟩ | ⟨e, he, -, hpp⟩ := hsrc
      · simp [hpp] at hp
      · exact covered_of_entry he (.inr (hpp ▸ hq)) (hr.patchPaths q hq)

end Config.Settings

/-! ## §5 — the directories the watch command watches -/

namespace Command

/-- Filtering with a check that may log keeps what the check answers, whatever it logs. -/
theorem filterAuxM_run_fst {P : String → Cli Bool} {p : String → Bool}
    (hP : ∀ d s, ((P d).run s).1 = p d) :
    ∀ (L acc : List String) (s : Run),
      ((List.filterAuxM P L acc).run s).1 = (L.filter p).reverse ++ acc
  | [], _, _ => rfl
  | d :: L, acc, s => by
    have hstep : (List.filterAuxM P (d :: L) acc).run s =
        (List.filterAuxM P L (cond ((P d).run s).1 (d :: acc) acc)).run ((P d).run s).2 := rfl
    rw [hstep, filterAuxM_run_fst hP L, hP]
    cases hd : p d <;> simp [hd]

/-- **The watch command watches the table directory, then every other directory that exists**,
in order. -/
theorem watchDirs_run (dirs : List String) (r : Run) :
    ((watchDirs dirs).run r).1 = dirs.take 1 ++ (dirs.drop 1).filter r.world.fs.isDir := by
  -- the check of each directory answers whether it exists, and logs the missing ones
  obtain ⟨P, hrun, hP⟩ : ∃ P : String → Cli Bool,
      ((watchDirs dirs).run r).1 =
        dirs.take 1 ++ ((List.filterAuxM P (dirs.drop 1) []).run r).1.reverse ∧
      ∀ d s, ((P d).run s).1 = r.world.fs.isDir d := by
    refine ⟨_, rfl, fun d s => ?_⟩
    cases r.world.fs.isDir d <;> simp <;> rfl
  rw [hrun, filterAuxM_run_fst hP, List.append_nil, List.reverse_reverse]

/-- Every listed directory that exists is watched. -/
theorem mem_watchDirs_run {dirs : List String} {d : String} (hd : d ∈ dirs) (r : Run)
    (hex : r.world.fs.isDir d = true) : d ∈ ((watchDirs dirs).run r).1 := by
  rw [watchDirs_run]
  rcases dirs with _ | ⟨x, l⟩
  · cases hd
  · rcases List.mem_cons.mp hd with rfl | hl
    · simp
    · simp [hl, hex]

end Command

/-! ## §6 — hot reload -/

open Files.Path in
/-- **Hot reload watches everything a load reads.** For settings that validated, their format `f`
and every registered table `T`:

* the directories watched are those the settings name, each once, in the order first named, the
  table directory first;
* every file a load of `T` may read (its file in the table directory or the explicit file, and
  its patch candidates or explicit patch files) lies, cleaned, in a watched directory; and when
  that directory exists, the watcher the watch command sets up (its directories, the registered
  tables and the pinned files, any quiet period) turns every batch holding an event on the file
  other than a change of mode, named after the directory and the file's name, into a change that
  names the file;
* a load of `T` from the table directory, read from the tree or through a fresh cache over it,
  looks at no other file: over two trees that find the same nodes at those files it gives the
  same outcome. A reload repeats the load's request, so the same holds of it. -/
theorem reload_watches_every_read {c : Config.Settings} (hv : c.validate = none) {f : Format}
    (hf : c.parsedFormat = .ok f) {T : String} (hT : T ∈ Command.registry.names) :
    (c.watchDirs.head? = some (clean c.dir) ∧ c.watchDirs.Nodup ∧
      c.watchDirs.Pairwise (fun a b => c.watchSources.idxOf a < c.watchSources.idxOf b) ∧
      ∀ d, d ∈ c.watchDirs ↔ d ∈ c.watchSources) ∧
    (∀ q ∈ Load.reads (c.tableOptions T) T c.dir f,
      dir (clean q) ∈ c.watchDirs ∧
      ∀ (r : Command.Run) (deb : Int) (op : Files.Op) (events : List Files.Event),
        r.world.fs.isDir (dir (clean q)) = true → op ≠ .chmod →
        ⟨join [dir (clean q), base q], op⟩ ∈ events →
        ∃ touched, Watch.change ⟨((Command.watchDirs c.watchDirs).run r).1,
            Command.registry.names, c.pinnedFiles, deb⟩ events = some touched ∧
          dir (clean q) ++ "/" ++ base q ∈ touched) ∧
    ∀ (cached : Bool) (fs₁ fs₂ : Files.Tree) (p : Payload),
      (∀ q ∈ Load.reads (c.tableOptions T) T c.dir f, fs₁.find q = fs₂.find q) →
      Load.loadMessage fs₁ p T c.dir f (some ((Load.Options.ofSetters
          (c.loadSetters Command.registry.names ++
            if cached then [.reader (Command.cachedReader fs₁)] else [])).forTable T)) =
        Load.loadMessage fs₂ p T c.dir f (some ((Load.Options.ofSetters
          (c.loadSetters Command.registry.names ++
            if cached then [.reader (Command.cachedReader fs₂)] else [])).forTable T)) := by
  refine ⟨⟨c.watchDirs_head, c.watchDirs_nodup, c.watchDirs_pairwise,
    fun _ => Config.Settings.mem_watchDirs⟩, ?_, ?_⟩
  · intro q hq
    have hcov := Config.Settings.reads_covered hv hf hT q hq
    rw [dir_clean_of_known hcov.known]
    refine ⟨hcov.watched, fun r deb op events hdir hop he => ?_⟩
    have hin : dir q ∈ ((Command.watchDirs c.watchDirs).run r).1 :=
      Command.mem_watchDirs_run hcov.watched r hdir
    exact Watch.Config.change_join hcov.known hin (clean_dir q) hcov.named hop he
  · intro cached fs₁ fs₂ p hsame
    rw [Config.Settings.forTable_loadSetters_cached, Config.Settings.forTable_loadSetters_cached]
    exact Load.loadMessage_frame (Config.Settings.tableOptions_readable hv hf T).loader
      (Load.Alike.of_find hsame _ cached)

/-- Settings that point the hero table at a file of its own and search a patch directory
validate, and the directory of that file is watched. -/
theorem hero_file_dir_watched :
    let c : Config.Settings := { Config.Settings.zero with
      dir := "conf", patchDirs := ["patches"],
      tables := [("heroconf", ⟨"custom/hero.json", none, [], ""⟩)] }
    c.validate = none ∧ c.parsedFormat = .ok .json ∧ "HeroConf" ∈ Command.registry.names ∧
      Files.Path.dir (Files.Path.clean "custom/hero.json") ∈ c.watchDirs := by
  intro c
  have hv : c.validate = none := by decide +kernel
  have hf : c.parsedFormat = .ok .json := by decide +kernel
  have hT : "HeroConf" ∈ Command.registry.names := by
    simp [Hub.Registry.names, Hub.registry_entries]
  have hread : "custom/hero.json" ∈ Load.reads (c.tableOptions "HeroConf") "HeroConf" c.dir .json := by
    decide +kernel
  exact ⟨hv, hf, hT, ((reload_watches_every_read hv hf hT).2.1 _ hread).1⟩

end ConfigTables
