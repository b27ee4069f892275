/-!
# Insertion-ordered indexes and groups

An `Index` maps keys to values and remembers the order in which keys were first put: putting
a key that is present replaces its value in place. A `Group` maps each key to the list of
values added under it, keys again in the order first seen.

Both are kept as lists of entries, which is their own view: every operation is stated on
that list. Iterating an index hands its entries, oldest first, to the caller's `yield`, in
any monad, until `yield` answers `false`.
-/

namespace ConfigTables

/-- Keys with values, in the order the keys were first put; a key appears at most once. -/
structure Index (κ ν : Type) where
  entries : List (κ × ν)
  deriving Repr, Inhabited

namespace Index

variable {κ ν : Type} [DecidableEq κ]

/-- The empty index. -/
def empty : Index κ ν := ⟨[]⟩

/-- The value of a key. -/
def get? (x : Index κ ν) (k : κ) : Option ν :=
  (x.entries.find? (·.1 = k)).map (·.2)

/-- Puts a value under a key: a present key keeps its place and takes the new value. Also
says whether a value was replaced. -/
def put (x : Index κ ν) (k : κ) (v : ν) : Index κ ν × Bool :=
  if x.entries.any (·.1 = k) then
    (⟨x.entries.map (fun e => if e.1 = k then (k, v) else e)⟩, true)
  else (⟨x.entries ++ [(k, v)]⟩, false)

/-- The number of keys. -/
def size (x : Index κ ν) : Nat := x.entries.length

/-- The keys in order. -/
def keys (x : Index κ ν) : List κ := x.entries.map (·.1)

/-- The values in key order. -/
def values (x : Index κ ν) : List ν := x.entries.map (·.2)

/-- The first entry. -/
def first? (x : Index κ ν) : Option (κ × ν) := x.entries.head?

/-- Hands the entries to `yield`, oldest first, and stops after the first one it answers
`false` for. -/
def all {m : Type → Type} [Monad m] (x : Index κ ν) (yield : κ → ν → m Bool) : m Unit :=
  walk x.entries
where
  /-- The walk from an entry to the next. -/
  walk : List (κ × ν) → m Unit
    | [] => pure ()
    | e :: rest => do
      if ← yield e.1 e.2 then walk rest else pure ()

end Index

/-- Values grouped by key, keys in the order first seen. -/
structure Group (κ ν : Type) where
  index : Index κ (List ν)
  deriving Repr, Inhabited

namespace Group

variable {κ ν : Type} [DecidableEq κ]

/-- The empty group. -/
def empty : Group κ ν := ⟨Index.empty⟩

/-- Adds a value at the end of its key's list. -/
def add (g : Group κ ν) (k : κ) (v : ν) : Group κ ν :=
  ⟨(g.index.put k ((g.index.get? k).getD [] ++ [v])).1⟩

/-- The values of a key; none for a key never added. -/
def get? (g : Group κ ν) (k : κ) : Option (List ν) := g.index.get? k

/-- The values of a key, empty for a key never added. -/
def get (g : Group κ ν) (k : κ) : List ν := (g.get? k).getD []

/-- The keys in order. -/
def keys (g : Group κ ν) : List κ := g.index.keys

/-- The number of keys. -/
def size (g : Group κ ν) : Nat := g.index.size

/-- Keys with their values, in key order. -/
def entries (g : Group κ ν) : List (κ × List ν) := g.index.entries

end Group

end ConfigTables
