import Mathlib
import ConfigTables.Cache
import ConfigTables.Proofs.TreeWrites
/-!
# Reads through a cache agree with the disk

A file is cached under its path, size and modification time (`Cache.fileKey`), and that key
is read back in one way only (`Cache.fileKey_inj`): numbers are printed without bars, so
cutting a key at its last two bars gives the triple back whatever the path holds.

Over any run of writes, removals, waiting, reads, flushes and expiries (`Cache.Bench`), the
cache stays sound (`Cache.Bench.Sound`): every entry is the contents a read found under that
file's key, and no read saw a time later than a file's own stamp. A write that changes what a
path shows stamps it with the time now, and as long as that gives a pair the path had at no
earlier read (`Cache.Bench.Fresh`), a hit is never served for changed contents: each read
answers what reading the file straight from the disk answers then.
-/

namespace ConfigTables.Files

namespace Tree

/-- A write that goes through names neither the working directory nor the empty key. -/
theorem write_key_ne {t t' : Tree} {q : String} {data : List UInt8} (h : t.write q data = .ok t') :
    t.keyOf q ≠ "." ∧ t.keyOf q ≠ "" := by
  unfold write at h
  split at h
  · cases h
  · next d hf =>
    obtain ⟨-, -, -, hkey⟩ := find_file hf
    exact key_ne_of_get?_file hkey
  · next c hf =>
    split at h
    · next hp =>
      cases hes : t.elementsOf q with
      | none => simp [parentReady, hes] at hp
      | some es =>
        refine keyOf_ne hes ?_
        rintro rfl
        rw [find_of_elementsOf_nil hes] at hf
        cases hf
    · cases h

/-- Dropping a key adds no node. -/
theorem get?_erase_of_some {t : Tree} {k k' : String} {n : Node}
    (h : ({ t with nodes := t.nodes.filter (·.1 ≠ k) } : Tree).get? k' = some n) :
    t.get? k' = some n := by
  by_cases hk : k' = k
  · subst hk
    unfold get? at h ⊢
    split
    · next hdot => simpa [hdot] using h
    · next hdot =>
      rw [if_neg hdot, List.find?_filter] at h
      simp only [Option.map_eq_some_iff] at h
      obtain ⟨e, he, -⟩ := h
      simpa using List.find?_some he
  · rwa [get?_erase_ne t hk] at h

/-- **A file found after a change that kept the nodes on its way was found before it.** -/
theorem find_file_of_kept {t t' : Tree} {p : String} {D : List UInt8} (hroot : t'.root = t.root)
    (hf : t'.find p = .ok (.file D))
    (hkept : ∀ k n, k ∈ t'.way p → t'.get? k = some n → t.get? k = some n) :
    t.find p = .ok (.file D) := by
  obtain ⟨front, hway, hfront, hkey⟩ := find_file hf
  -- every key on the way holds a node after the change
  have hsome : ∀ k ∈ t'.way p, ∃ n, t'.get? k = some n := by
    rw [hway]
    intro k hk
    rcases List.mem_append.1 hk with hk | hk
    · exact ⟨_, hfront k hk⟩
    · rw [List.mem_singleton.1 hk]
      exact ⟨_, hkey⟩
  refine (find_congr hroot fun k hk => ?_).symm.trans hf
  rw [← way_congr hroot] at hk
  obtain ⟨n, hn⟩ := hsome k hk
  rw [hn, hkept k n hk hn]

end Tree

namespace Disk

/-- The contents a path shows and their modification time, when it names a file. -/
def file? (d : Disk) (p : String) : Option (List UInt8 × Int) :=
  match d.tree.find p with
  | .ok (.file data) => some (data, d.stamp (d.tree.keyOf p))
  | _ => none

theorem file?_of_find {d : Disk} {p : String} {D : List UInt8} (hf : d.tree.find p = .ok (.file D)) :
    d.file? p = some (D, d.stamp (d.tree.keyOf p)) := by
  simp [file?, hf]

theorem find_of_file? {d : Disk} {p : String} {D : List UInt8} {m : Int}
    (h : d.file? p = some (D, m)) :
    d.tree.find p = .ok (.file D) ∧ d.stamp (d.tree.keyOf p) = m := by
  unfold file? at h
  split at h
  · next data hf =>
    cases h
    exact ⟨hf, rfl⟩
  · cases h

theorem file?_le_now {d : Disk} {p : String} {D : List UInt8} {m : Int}
    (h : d.file? p = some (D, m)) : m ≤ d.now :=
  (find_of_file? h).2 ▸ d.stamp_le_now _

@[simp] theorem file?_wait (d : Disk) (ns : Nat) (p : String) : (d.wait ns).file? p = d.file? p :=
  rfl

theorem write_eq_restamp {d d' : Disk} {q : String} {data : List UInt8}
    (h : d.write q data = .ok d') :
    ∃ t, d.tree.write q data = .ok t ∧ d' = d.restamp t (d.tree.keyOf q) := by
  unfold write at h
  cases hw : d.tree.write q data with
  | error e => simp [hw, Except.map] at h
  | ok t =>
    simp only [hw, Except.map, Except.ok.injEq] at h
    exact ⟨t, rfl, h.symm⟩

/-- **What a write leaves a path showing**: what it showed, nothing, or the data written,
stamped now. -/
theorem file?_write {d d' : Disk} {q : String} {data : List UInt8} (h : d.write q data = .ok d')
    (p : String) :
    d'.file? p = d.file? p ∨ d'.file? p = none ∨ d'.file? p = some (data, d.now) := by
  obtain ⟨t, ht, rfl⟩ := write_eq_restamp h
  have hput := Tree.write_eq_put ht
  have hroot : t.root = d.tree.root := Tree.write_root ht
  have hkq := Tree.write_key_ne ht
  cases hf : t.find p with
  | error c => exact .inr (.inl (by simp [file?, hf]))
  | ok n =>
    cases n with
    | dir => exact .inr (.inl (by simp [file?, hf]))
    | file D =>
      obtain ⟨front, hway, hfront, hkey⟩ := Tree.find_file hf
      rw [Tree.keyOf_congr hroot] at hway hkey
      by_cases hk : d.tree.keyOf p = d.tree.keyOf q
      · -- the write hit this file: it shows the data written, stamped now
        rw [hk, hput, Tree.get?_put_self _ _ hkq] at hkey
        cases hkey
        refine .inr (.inr ?_)
        simp [file?, hf, Tree.keyOf_congr hroot, restamp_stamp, hk]
      · -- the written key is off the way to this file, which is as it was
        have hoff : d.tree.keyOf q ∉ d.tree.way p := by
          rw [← Tree.way_congr hroot, hway]
          intro hm
          rcases List.mem_append.1 hm with hm | hm
          · have hdir := hfront _ hm
            rw [hput, Tree.get?_put_self _ _ hkq] at hdir
            cases hdir
          · exact hk (List.mem_singleton.1 hm).symm
        have hfd : d.tree.find p = .ok (.file D) := by
          rw [← hf, hput, Tree.find_put_of_not_mem hoff]
        refine .inl ?_
        rw [file?_of_find hfd]
        simp [file?, hf, Tree.keyOf_congr hroot, restamp_stamp, hk]

/-- A write, or a failed one, leaves each path what it showed, nothing, or the data written. -/
theorem file?_write_getD (d : Disk) (q : String) (data : List UInt8) (p : String) :
    let d' := (d.write q data).toOption.getD d
    d'.file? p = d.file? p ∨ d'.file? p = none ∨ d'.file? p = some (data, d'.now) := by
  cases hw : d.write q data with
  | error e => exact .inl rfl
  | ok d' =>
    obtain ⟨t, -, rfl⟩ := write_eq_restamp hw
    exact file?_write hw p

theorem now_write_getD (d : Disk) (q : String) (data : List UInt8) :
    ((d.write q data).toOption.getD d).now = d.now := by
  cases hw : d.write q data with
  | error e => rfl
  | ok d' =>
    obtain ⟨t, -, rfl⟩ := write_eq_restamp hw
    rfl

theorem remove_eq {d d' : Disk} {q : String} (h : d.remove q = .ok d') :
    ∃ t, d.tree.remove q = .ok t ∧ d' = { d with tree := t } := by
  unfold remove at h
  cases hr : d.tree.remove q with
  | error e => simp [hr, Except.map] at h
  | ok t =>
    simp only [hr, Except.map, Except.ok.injEq] at h
    exact ⟨t, rfl, h.symm⟩

theorem now_remove_getD (d : Disk) (q : String) : ((d.remove q).toOption.getD d).now = d.now := by
  cases hr : d.remove q with
  | error e => rfl
  | ok d' =>
    obtain ⟨t, -, rfl⟩ := remove_eq hr
    rfl

/-- **A removal changes no file**: each path shows what it showed, or nothing. -/
theorem file?_remove_getD (d : Disk) (q : String) (p : String) :
    let d' := (d.remove q).toOption.getD d
    d'.file? p = d.file? p ∨ d'.file? p = none := by
  cases hr : d.remove q with
  | error e => exact .inl rfl
  | ok d' =>
    obtain ⟨t, ht, rfl⟩ := remove_eq hr
    show ({ d with tree := t } : Disk).file? p = d.file? p ∨ ({ d with tree := t } : Disk).file? p = none
    have herase := Tree.remove_eq_erase ht
    cases hf : t.find p with
    | error c => exact .inr (by simp [file?, hf])
    | ok n =>
      cases n with
      | dir => exact .inr (by simp [file?, hf])
      | file D =>
        have hroot : t.root = d.tree.root := by rw [herase]
        have hfd : d.tree.find p = .ok (.file D) := by
          refine Tree.find_file_of_kept hroot hf fun k n _ hk => ?_
          rw [herase] at hk
          exact Tree.get?_erase_of_some hk
        refine .inl ?_
        rw [file?_of_find hfd]
        simp [file?, hf, Tree.keyOf_congr hroot]

end Disk

end ConfigTables.Files

namespace ConfigTables.Cache

open Files

/-! ## The key of a file -/

/-- A natural number prints as digits only. -/
theorem not_mem_toString_nat {c : Char} (hc : c.isDigit = false) (n : Nat) :
    c ∉ (toString n).toList := by
  rw [Nat.toString_eq_repr, Nat.toList_repr]
  intro h
  simp [Nat.isDigit_of_mem_toDigits (by decide) (by decide) h] at hc

theorem bar_not_mem_int (i : Int) : '|' ∉ (toString i).toList := by
  cases i with
  | ofNat n => exact not_mem_toString_nat (by decide) n
  | negSucc n =>
    show '|' ∉ ("-" ++ Nat.repr (n + 1)).toList
    simpa [String.toList_append] using not_mem_toString_nat (c := '|') (by decide) (n + 1)

/-- A natural number prints without a sign. -/
theorem toString_nat_ne_neg (m k : Nat) : toString m ≠ "-" ++ Nat.repr k := by
  intro h
  have hl : (toString m).toList = '-' :: (Nat.repr k).toList := by
    rw [h]
    simp [String.toList_append]
  exact not_mem_toString_nat (by decide) m (hl ▸ List.mem_cons_self)

/-- Integers print apart. -/
theorem int_toString_inj {i j : Int} (h : toString i = toString j) : i = j := by
  cases i with
  | ofNat m =>
    cases j with
    | ofNat n =>
      have : Nat.repr m = Nat.repr n := h
      rw [Nat.repr_inj.1 this]
    | negSucc n => exact absurd h (toString_nat_ne_neg m (n + 1))
  | negSucc m =>
    cases j with
    | ofNat n => exact absurd h.symm (toString_nat_ne_neg n (m + 1))
    | negSucc n =>
      have : "-" ++ Nat.repr (m + 1) = "-" ++ Nat.repr (n + 1) := h
      have hl := congrArg String.toList this
      simp only [String.toList_append, List.append_cancel_left_eq] at hl
      have := Nat.repr_inj.1 (String.toList_inj.1 hl)
      omega

/-- Cutting at the last bar: a text ends in a bar and a tail without bars in one way only. -/
theorem append_bar_inj {xs ys xs' ys' : List Char} (h : xs ++ '|' :: ys = xs' ++ '|' :: ys')
    (hy : '|' ∉ ys) (hy' : '|' ∉ ys') : xs = xs' ∧ ys = ys' := by
  induction xs generalizing xs' with
  | nil =>
    cases xs' with
    | nil => simpa using h
    | cons x r =>
      obtain ⟨-, rfl⟩ := List.cons_eq_cons.1 h
      exact absurd (List.mem_append_right _ List.mem_cons_self) hy
  | cons x r ih =>
    cases xs' with
    | nil =>
      obtain ⟨-, rfl⟩ := List.cons_eq_cons.1 h
      exact absurd (List.mem_append_right _ List.mem_cons_self) hy'
    | cons x' r' =>
      obtain ⟨rfl, ht⟩ := List.cons_eq_cons.1 h
      obtain ⟨rfl, rfl⟩ := ih ht
      exact ⟨rfl, rfl⟩

/-- **A file's key names one path, size and time**, whatever characters the path holds. -/
theorem fileKey_inj {p p' : String} {s s' : Nat} {m m' : Int}
    (h : fileKey p s m = fileKey p' s' m') : p = p' ∧ s = s' ∧ m = m' := by
  have hbar : "|".toList = ['|'] := rfl
  have hl : (p.toList ++ '|' :: (toString s).toList) ++ '|' :: (toString m).toList =
      (p'.toList ++ '|' :: (toString s').toList) ++ '|' :: (toString m').toList := by
    simpa [fileKey, String.toList_append, hbar] using congrArg String.toList h
  -- cut at the bar before the time, then at the bar before the size
  obtain ⟨hps, hm⟩ := append_bar_inj hl (bar_not_mem_int m) (bar_not_mem_int m')
  obtain ⟨hp, hs⟩ := append_bar_inj hps (not_mem_toString_nat (by decide) s)
    (not_mem_toString_nat (by decide) s')
  refine ⟨String.toList_inj.1 hp, Nat.repr_inj.1 (String.toList_inj.1 hs), ?_⟩
  exact int_toString_inj (String.toList_inj.1 hm)

/-! ## One read -/

theorem mem_of_lookup {l : List (String × List UInt8)} {k : String} {v : List UInt8}
    (h : l.lookup k = some v) : (k, v) ∈ l := by
  induction l with
  | nil => cases h
  | cons e rest ih =>
    obtain ⟨k', v'⟩ := e
    by_cases hk : k = k'
    · subst hk
      simp only [List.lookup, beq_self_eq_true, Option.some.injEq] at h
      simp [h]
    · rw [List.lookup, beq_false_of_ne hk] at h
      exact List.mem_cons_of_mem _ (ih h)

@[simp] theorem get_entries (c : Cache) (key : String) : (c.get key).2.entries = c.entries := by
  unfold get
  split <;> rfl

/-- **A failed read stores nothing**, whatever the look and the read it is given. -/
theorem readVia_entries_of_error {c : Cache} {stat : String → Except String Info}
    {readFile : String → Except String (List UInt8)} {p : String}
    (h : (c.readVia stat readFile p).1.toBool = false) :
    (c.readVia stat readFile p).2.entries = c.entries := by
  cases hs : stat p with
  | error e => simp [readVia, hs]
  | ok info =>
    cases info with
    | dir => simp [readVia, hs]
    | file size mtime =>
      -- a file: the cache is asked, which counts but stores nothing
      rcases hg : c.get (fileKey p size mtime) with ⟨v, c'⟩
      have hc' : c'.entries = c.entries := by
        simpa [hg] using get_entries c (fileKey p size mtime)
      cases v with
      | some v => simp [readVia, hs, hg, hc']
      | none =>
        -- a miss stores only what was read
        cases hr : readFile p with
        | error e => simp [readVia, hs, hg, hr, hc']
        | ok data => simp [readVia, hs, hg, hr, Except.toBool] at h

variable {c : Cache} {d : Disk} {p : String}

theorem readFrom_of_not_file (hf : d.file? p = none) :
    (c.readFrom d p).2 = c ∧ (c.readFrom d p).1.toBool = false := by
  cases hfind : d.tree.find p with
  | error e => simp [readFrom, readVia, Disk.stat, hfind, Except.mapError, Except.toBool]
  | ok n =>
    cases n with
    | dir => simp [readFrom, readVia, Disk.stat, hfind, Except.mapError, Except.toBool]
    | file D => simp [Disk.file?, hfind] at hf

/-- A file found under its key in the cache is read from there. -/
theorem readFrom_hit {D v : List UInt8} (hf : d.tree.find p = .ok (.file D))
    (hv : c.entries.lookup (fileKey p D.length (d.stamp (d.tree.keyOf p))) = some v) :
    c.readFrom d p = (.ok v, { c with hits := c.hits + 1 }) := by
  simp [readFrom, readVia, Disk.stat, hf, Except.mapError, get, hv]

/-- A file missing from the cache is read from the disk and stored under its key. -/
theorem readFrom_miss {D : List UInt8} (hf : d.tree.find p = .ok (.file D))
    (hv : c.entries.lookup (fileKey p D.length (d.stamp (d.tree.keyOf p))) = none) :
    c.readFrom d p = (.ok D, ({ c with misses := c.misses + 1 } : Cache).set
      (fileKey p D.length (d.stamp (d.tree.keyOf p))) D) := by
  simp [readFrom, readVia, Disk.stat, hf, Except.mapError, get, hv, Tree.read]

/-! ## Runs -/

/-- What can happen around a file reader: a file written, a path removed, time passing, a read
through the cache, the cache flushed, and one entry expiring. -/
inductive Event where
  | write (path : String) (data : List UInt8)
  | remove (path : String)
  | wait (ns : Nat)
  | read (path : String)
  | flush
  | expire (key : String)

/-- A disk, the cache a reader keeps over it, and the path, size and modification time of each
file a read found. -/
structure Bench where
  disk : Disk
  cache : Cache
  seen : List (String × Nat × Int)

/-- What a read answered, with what looking at the path and reading it straight from the disk
answered at that moment. -/
structure Answer where
  answer : Except String (List UInt8)
  stat : Except OsError Info
  direct : Except OsError (List UInt8)

/-- A read answers what reading the file straight from the disk answers, and fails exactly when
looking at the path fails, the path names a directory, or reading it fails. -/
def Answer.Faithful (a : Answer) : Prop :=
  a.answer.toOption = a.direct.toOption ∧
    (a.answer.toBool = false ↔ a.stat.toBool = false ∨ a.stat = .ok .dir ∨ a.direct.toBool = false)

/-- Answering a file's contents is faithful. -/
theorem Answer.faithful_of_file {d : Disk} {p : String} {D : List UInt8}
    (hf : d.tree.find p = .ok (.file D)) : (⟨.ok D, d.stat p, d.tree.read p⟩ : Answer).Faithful := by
  simp [Answer.Faithful, Disk.stat, Tree.read, hf, Except.toOption, Except.toBool]

/-- Failing on a path that names no file is faithful: looking at it fails or finds a
directory, and reading it straight fails. -/
theorem Answer.faithful_of_not_file {d : Disk} {p : String} (hf : d.file? p = none)
    {r : Except String (List UInt8)} (hr : r.toBool = false) :
    (⟨r, d.stat p, d.tree.read p⟩ : Answer).Faithful := by
  obtain ⟨e, rfl⟩ : ∃ e, r = .error e := by
    cases r with
    | error e => exact ⟨e, rfl⟩
    | ok v => cases hr
  cases hfind : d.tree.find p with
  | error c => simp [Answer.Faithful, Disk.stat, Tree.read, hfind, Except.toOption, Except.toBool]
  | ok n =>
    cases n with
    | dir => simp [Answer.Faithful, Disk.stat, Tree.read, hfind, Except.toOption, Except.toBool]
    | file D => simp [Disk.file?, hfind] at hf

namespace Bench

/-- A reader with an empty cache over a disk. -/
def start (d : Disk) : Bench := ⟨d, Cache.empty, []⟩

/-- The path, size and time a read of `p` finds, when it names a file. -/
def sighting (d : Disk) (p : String) : List (String × Nat × Int) :=
  (d.file? p).toList.map fun x => (p, x.1.length, x.2)

/-- One event. A write or removal that fails leaves the disk as it was. -/
def step (b : Bench) : Event → Bench
  | .write p data => { b with disk := (b.disk.write p data).toOption.getD b.disk }
  | .remove p => { b with disk := (b.disk.remove p).toOption.getD b.disk }
  | .wait ns => { b with disk := b.disk.wait ns }
  | .read p =>
    { b with cache := (b.cache.readFrom b.disk p).2, seen := b.seen ++ sighting b.disk p }
  | .flush => { b with cache := b.cache.flush }
  | .expire key => { b with cache := b.cache.delete [key] }

/-- What a read among the events answers. -/
def answer (b : Bench) : Event → List Answer
  | .read p => [⟨(b.cache.readFrom b.disk p).1, b.disk.stat p, b.disk.tree.read p⟩]
  | _ => []

/-- What the reads of a run answer, in order. -/
def answers : Bench → List Event → List Answer
  | _, [] => []
  | b, e :: es => b.answer e ++ (b.step e).answers es

/-- A step restamps what it changes: wherever it changes the contents a path shows, the size
and time the path then shows are a pair no earlier read of that path found. -/
def Restamps (b : Bench) (e : Event) : Prop :=
  ∀ p D m, (b.step e).disk.file? p = some (D, m) → (b.disk.file? p).map Prod.fst ≠ some D →
    (p, D.length, m) ∉ b.seen

/-- Every step of a run restamps what it changes. -/
def Fresh : Bench → List Event → Prop
  | _, [] => True
  | b, e :: es => b.Restamps e ∧ (b.step e).Fresh es

/-- The cache is sound: each entry holds, under a file's key, what a read of that file found,
which stays right while the file shows that size and time; and no read found a time later
than now, or later than the stamp its file shows now. -/
structure Sound (b : Bench) : Prop where
  entries : ∀ e ∈ b.cache.entries, ∃ p s m, e.1 = fileKey p s m ∧ (p, s, m) ∈ b.seen ∧
    ∀ D, b.disk.file? p = some (D, m) → D.length = s → D = e.2
  seen : ∀ p s m, (p, s, m) ∈ b.seen → m ≤ b.disk.now ∧
    ∀ D m', b.disk.file? p = some (D, m') → m ≤ m'

theorem Sound.start (d : Disk) : (start d).Sound :=
  ⟨fun _ he => (List.not_mem_nil he).elim, fun _ _ _ hs => (List.not_mem_nil hs).elim⟩

variable {b : Bench}

/-- **A disk that moves on keeps the cache sound** when the clock does not go back, each path
shows what it showed, nothing, or a file stamped now, and changed contents come with a pair
no read found. -/
theorem Sound.moved (hs : b.Sound) {d' : Disk} (hnow : b.disk.now ≤ d'.now)
    (hfile : ∀ p, d'.file? p = b.disk.file? p ∨ d'.file? p = none ∨
      ∃ D, d'.file? p = some (D, d'.now))
    (hfresh : ∀ p D m, d'.file? p = some (D, m) → (b.disk.file? p).map Prod.fst ≠ some D →
      (p, D.length, m) ∉ b.seen) :
    ({ b with disk := d' } : Bench).Sound := by
  constructor
  · intro e he
    obtain ⟨p, s, m, hkey, hseen, hright⟩ := hs.entries e he
    refine ⟨p, s, m, hkey, hseen, fun D hD hlen => ?_⟩
    obtain ⟨-, hmle⟩ := hs.seen p s m hseen
    rcases hfile p with hsame | hnone | ⟨D', hnew⟩
    · exact hright D (hsame ▸ hD) hlen
    · rw [hnone] at hD
      cases hD
    · -- a file stamped now: the contents the read found, or a pair it did not find
      rw [hnew] at hD
      obtain ⟨rfl, rfl⟩ := Prod.mk.inj (Option.some.inj hD)
      by_cases hchg : (b.disk.file? p).map Prod.fst = some D'
      · obtain ⟨⟨D0, m0⟩, hold, hD0⟩ := Option.map_eq_some_iff.1 hchg
        obtain rfl : D0 = D' := hD0
        -- the read saw a time no later than the old stamp, and that is no later than now
        have hm0 : m0 = d'.now :=
          le_antisymm (le_trans (Disk.file?_le_now hold) hnow) (hmle D0 m0 hold)
        exact hright D0 (hm0 ▸ hold) hlen
      · exact absurd (hlen ▸ hseen) (hfresh p D' _ hnew hchg)
  · intro p s m hseen
    obtain ⟨hmnow, hmle⟩ := hs.seen p s m hseen
    refine ⟨le_trans hmnow hnow, fun D m' hD => ?_⟩
    rcases hfile p with hsame | hnone | ⟨D', hnew⟩
    · exact hmle D m' (hsame ▸ hD)
    · rw [hnone] at hD
      cases hD
    · rw [hnew] at hD
      cases hD
      exact le_trans hmnow hnow

/-- A cache that only lost entries stays sound. -/
theorem Sound.kept (hs : b.Sound) {c : Cache} (hc : ∀ e ∈ c.entries, e ∈ b.cache.entries) :
    ({ b with cache := c } : Bench).Sound :=
  ⟨fun e he => hs.entries e (hc e he), hs.seen⟩

/-- A read that finds a file records its pair, and stores at most that file under its key. -/
theorem Sound.found (hs : b.Sound) {p : String} {D : List UInt8}
    (hf : b.disk.tree.find p = .ok (.file D)) {c : Cache}
    (hc : ∀ e ∈ c.entries,
      e ∈ b.cache.entries ∨ e = (fileKey p D.length (b.disk.stamp (b.disk.tree.keyOf p)), D)) :
    ({ b with
        cache := c
        seen := b.seen ++ [(p, D.length, b.disk.stamp (b.disk.tree.keyOf p))] } : Bench).Sound := by
  have hfile := Disk.file?_of_find hf
  constructor
  · intro e he
    rcases hc e he with hold | rfl
    · obtain ⟨q, s, m, hkey, hseen, hright⟩ := hs.entries e hold
      exact ⟨q, s, m, hkey, List.mem_append_left _ hseen, hright⟩
    · refine ⟨p, D.length, _, rfl, List.mem_append_right _ (List.mem_singleton_self _),
        fun D' hD' _ => ?_⟩
      rw [hfile] at hD'
      exact (Prod.mk.inj (Option.some.inj hD')).1.symm
  · intro q s m hseen
    rcases List.mem_append.1 hseen with hold | hnew
    · exact hs.seen q s m hold
    · obtain ⟨rfl, rfl, rfl⟩ : q = p ∧ s = D.length ∧ m = b.disk.stamp (b.disk.tree.keyOf p) := by
        simpa using hnew
      refine ⟨Disk.file?_le_now hfile, fun D' m' hD' => ?_⟩
      rw [hfile] at hD'
      exact le_of_eq (Prod.mk.inj (Option.some.inj hD')).2

/-- **A read keeps the cache sound.** -/
theorem Sound.read (hs : b.Sound) (p : String) : (b.step (.read p)).Sound := by
  cases hfile : b.disk.file? p with
  | none =>
    -- nothing found: nothing stored and nothing seen
    have hkeep := (readFrom_of_not_file (c := b.cache) hfile).1
    have hsight : sighting b.disk p = [] := by simp [sighting, hfile]
    simp only [step, hkeep, hsight, List.append_nil]
    exact hs
  | some x =>
    obtain ⟨D, m⟩ := x
    obtain ⟨hf, rfl⟩ := Disk.find_of_file? hfile
    have hsight : sighting b.disk p = [(p, D.length, b.disk.stamp (b.disk.tree.keyOf p))] := by
      simp [sighting, hfile]
    simp only [step, hsight]
    cases hv : b.cache.entries.lookup (fileKey p D.length (b.disk.stamp (b.disk.tree.keyOf p))) with
    | some v =>
      rw [readFrom_hit hf hv]
      exact hs.found hf fun e he => .inl he
    | none =>
      rw [readFrom_miss hf hv]
      refine hs.found hf fun e he => ?_
      simp only [Cache.set, List.mem_cons, List.mem_filter] at he
      rcases he with rfl | ⟨he, -⟩
      · exact .inr rfl
      · exact .inl he

/-- **Over a sound cache, a read answers what the disk holds.** A hit is the contents under
the file's own key, which a read found while the file showed the size and time it shows now. -/
theorem Sound.faithful (hs : b.Sound) (p : String) : ∀ a ∈ b.answer (.read p), a.Faithful := by
  simp only [answer, List.mem_singleton, forall_eq]
  cases hfile : b.disk.file? p with
  | none => exact Answer.faithful_of_not_file hfile (readFrom_of_not_file hfile).2
  | some x =>
    obtain ⟨D, m⟩ := x
    obtain ⟨hf, rfl⟩ := Disk.find_of_file? hfile
    cases hv : b.cache.entries.lookup (fileKey p D.length (b.disk.stamp (b.disk.tree.keyOf p))) with
    | some v =>
      -- the entry under this key was found by a read of this very file at this size and time
      obtain ⟨q, s, m, hkey, -, hright⟩ := hs.entries _ (mem_of_lookup hv)
      obtain ⟨rfl, rfl, rfl⟩ := fileKey_inj hkey
      have hvD : D = v := hright D hfile rfl
      rw [readFrom_hit hf hv, ← hvD]
      exact Answer.faithful_of_file hf
    | none =>
      rw [readFrom_miss hf hv]
      exact Answer.faithful_of_file hf

/-- **Each step that restamps what it changes keeps the cache sound.** -/
theorem Sound.step (hs : b.Sound) {e : Event} (hr : b.Restamps e) : (b.step e).Sound := by
  cases e with
  | write q data =>
    refine hs.moved (le_of_eq (Disk.now_write_getD b.disk q data).symm) (fun p => ?_) hr
    rcases Disk.file?_write_getD b.disk q data p with h | h | h
    · exact .inl h
    · exact .inr (.inl h)
    · exact .inr (.inr ⟨data, h⟩)
  | remove q =>
    refine hs.moved (le_of_eq (Disk.now_remove_getD b.disk q).symm) (fun p => ?_) hr
    rcases Disk.file?_remove_getD b.disk q p with h | h
    · exact .inl h
    · exact .inr (.inl h)
  | wait ns => exact hs.moved (by simp) (fun p => .inl (Disk.file?_wait b.disk ns p)) hr
  | read p => exact hs.read p
  | flush => exact hs.kept fun e he => (List.not_mem_nil he).elim
  | expire key => exact hs.kept fun e he => (List.mem_filter.1 he).1

/-- **Along a fresh run from a sound cache, every read answers what the disk holds.** -/
theorem Sound.answers_faithful (hs : b.Sound) {es : List Event} (hf : b.Fresh es) :
    ∀ a ∈ b.answers es, a.Faithful := by
  induction es generalizing b with
  | nil => exact fun a ha => (List.not_mem_nil ha).elim
  | cons e es ih =>
    intro a ha
    rcases List.mem_append.1 ha with ha | ha
    · cases e with
      | read p => exact hs.faithful p a ha
      | write => simp [answer] at ha
      | remove => simp [answer] at ha
      | wait => simp [answer] at ha
      | flush => simp [answer] at ha
      | expire => simp [answer] at ha
    · exact ih (hs.step hf.1) hf.2 a ha

/-- A step that leaves each path what it showed, or nothing, restamps what it changes. -/
theorem restamps_of_kept {e : Event}
    (h : ∀ p, (b.step e).disk.file? p = b.disk.file? p ∨ (b.step e).disk.file? p = none) :
    b.Restamps e := by
  intro p D m hD hchg
  rcases h p with hsame | hnone
  · rw [hsame] at hD
    simp [hD] at hchg
  · rw [hnone] at hD
    cases hD

/-- **A write after the clock passed every read restamps what it changes**: it stamps the
time now, which no read found. -/
theorem restamps_write_of_lt (hlt : ∀ x ∈ b.seen, x.2.2 < b.disk.now) (q : String)
    (data : List UInt8) : b.Restamps (.write q data) := by
  intro p D m hD hchg hmem
  change ((b.disk.write q data).toOption.getD b.disk).file? p = some (D, m) at hD
  rcases Disk.file?_write_getD b.disk q data p with h | h | h
  · rw [h] at hD
    simp [hD] at hchg
  · rw [h] at hD
    cases hD
  · rw [h, Disk.now_write_getD] at hD
    obtain ⟨-, rfl⟩ := Prod.mk.inj (Option.some.inj hD)
    exact lt_irrefl _ (hlt _ hmem)

/-- Whether time passes right before every write of a run. -/
def paced : List Event → Bool
  | [] => true
  | .wait (_ + 1) :: .write _ _ :: es => paced es
  | .write _ _ :: _ => false
  | _ :: es => paced es

/-- **A run that lets time pass before each write is fresh**: a write then stamps a time later
than any a read found. -/
theorem Sound.fresh_of_paced (hs : b.Sound) {es : List Event} (hp : paced es = true) :
    b.Fresh es := by
  fun_induction paced es generalizing b with
  | case1 => trivial
  | case2 n q data es ih =>
    -- time passes first, so every time a read found is then in the past
    have hwait : b.Restamps (.wait (n + 1)) :=
      restamps_of_kept fun p => .inl (Disk.file?_wait b.disk _ p)
    have hlt : ∀ x ∈ (b.step (.wait (n + 1))).seen, x.2.2 < (b.step (.wait (n + 1))).disk.now := by
      rintro ⟨p, s, m⟩ hx
      have := (hs.seen p s m hx).1
      change m < b.disk.now + ((n + 1 : Nat) : Int)
      omega
    have hs1 := hs.step hwait
    have hwrite := restamps_write_of_lt hlt q data
    exact ⟨hwait, hwrite, ih (hs1.step hwrite) hp⟩
  | case3 q data es => simp at hp
  | case4 e es _ hnw ih =>
    have hr : b.Restamps e := by
      cases e with
      | write q data => exact (hnw q data rfl).elim
      | remove q => exact restamps_of_kept (Disk.file?_remove_getD b.disk q)
      | wait ns => exact restamps_of_kept fun p => .inl (Disk.file?_wait b.disk ns p)
      | read p => exact restamps_of_kept fun _ => .inl rfl
      | flush => exact restamps_of_kept fun _ => .inl rfl
      | expire key => exact restamps_of_kept fun _ => .inl rfl
    exact ⟨hr, ih (hs.step hr) hp⟩

end Bench

/-- **Cached reads agree with the disk.** Over any run from an empty cache in which every
change to what a path shows comes with a size and time no earlier read of it found, each read
answers what reading the file straight from the disk answers then, and fails exactly when
looking at the path fails, it names a directory, or reading it fails. A failed read stores
nothing, whatever look and read it is given, and a file's key names one path, size and time. -/
theorem cached_reads_agree_with_disk (d : Disk) (es : List Event)
    (hf : (Bench.start d).Fresh es) :
    (∀ a ∈ (Bench.start d).answers es, a.answer.toOption = a.direct.toOption ∧
      (a.answer.toBool = false ↔
        a.stat.toBool = false ∨ a.stat = .ok .dir ∨ a.direct.toBool = false)) ∧
    (∀ (c : Cache) (stat : String → Except String Info)
      (readFile : String → Except String (List UInt8)) (p : String),
      (c.readVia stat readFile p).1.toBool = false →
        (c.readVia stat readFile p).2.entries = c.entries) ∧
    (∀ (p p' : String) (s s' : Nat) (m m' : Int),
      fileKey p s m = fileKey p' s' m' → p = p' ∧ s = s' ∧ m = m') :=
  ⟨(Bench.Sound.start d).answers_faithful hf, fun _ _ _ _ h => readVia_entries_of_error h,
    fun _ _ _ _ _ _ h => fileKey_inj h⟩

/-- A file read, written again a nanosecond later with other contents of the same size, and
read again. -/
theorem rewritten_file_read_again :
    (Bench.start (Disk.rest ⟨[("t.json", .file [1])], ""⟩)).Fresh
        [.read "t.json", .wait 1, .write "t.json" [2], .read "t.json"] ∧
      ∀ a ∈ (Bench.start (Disk.rest ⟨[("t.json", .file [1])], ""⟩)).answers
          [.read "t.json", .wait 1, .write "t.json" [2], .read "t.json"],
        a.answer.toOption = a.direct.toOption ∧
          (a.answer.toBool = false ↔
            a.stat.toBool = false ∨ a.stat = .ok .dir ∨ a.direct.toBool = false) :=
  have hf := (Bench.Sound.start _).fresh_of_paced
    (show Bench.paced [.read "t.json", .wait 1, .write "t.json" [2], .read "t.json"] = true from rfl)
  ⟨hf, (cached_reads_agree_with_disk _ _ hf).1⟩

/- Without time passing, the rewrite keeps the file's size and time, and the second read is
served the old contents from the cache. -/
example :
    ((Bench.start (Disk.rest ⟨[("t.json", .file [1])], ""⟩)).answers
        [.read "t.json", .write "t.json" [2], .read "t.json"]).map
      (fun a => (a.answer.toOption, a.direct.toOption)) =
      [(some [1], some [1]), (some [1], some [2])] := by
  decide +kernel

end ConfigTables.Cache
