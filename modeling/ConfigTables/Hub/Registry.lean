import ConfigTables.Hub.Table
import ConfigTables.Text.Chars
/-!
# The table registry

A registry maps table names to constructors. Registering needs a non-empty name and a
constructor; a name registered again takes the later constructor. Names are kept in
ascending order, which is the order tables are built and loaded in.
-/

namespace ConfigTables.Hub

/-- Registered constructors by name, names in ascending order. -/
structure Registry where
  entries : List (String × Maker)
  deriving Inhabited

namespace Registry

/-- The empty registry. -/
def empty : Registry := ⟨[]⟩

/-- Puts a constructor under a name, keeping names in ascending order. -/
def insert (k : String) (m : Maker) : List (String × Maker) → List (String × Maker)
  | [] => [(k, m)]
  | (k', m') :: rest =>
    if k = k' then (k, m) :: rest
    else if k < k' then (k, m) :: (k', m') :: rest
    else (k', m') :: insert k m rest

/-- The fault of registering under an empty name or without a constructor. -/
def invalid (name : String) : Fault :=
  .wrap "" (.sentinel .invalidRegistration) (": name=" ++ Text.Quoted.quote name)

/-- Registers a constructor under a name; `none` is no constructor at all. Replacing a
constructor is logged. -/
def register (r : Registry) (name : String) (m : Option Maker) :
    Except Fault Registry × List Log.Record :=
  match m with
  | none => (.error (invalid name), [])
  | some m =>
    if name = "" then (.error (invalid name), [])
    else
      let note : List Log.Record :=
        if r.entries.any (·.1 = name) then
          [⟨.debug, "registry", "replacing table constructor", [.text "table", .text name]⟩]
        else []
      (.ok ⟨insert name m r.entries⟩, note)

/-- Registers every built-in table under its own name. -/
def registerBuiltins (r : Registry) : Registry × List Log.Record :=
  TableType.all.foldl (fun (acc : Registry × List Log.Record) t =>
    match acc.1.register t.name (some (.table (.builtin t))) with
    | (.ok r', logs) => (r', acc.2 ++ logs)
    | (.error _, logs) => (acc.1, acc.2 ++ logs)) (r, [])

/-- The registered names in ascending order. -/
def names (r : Registry) : List String := r.entries.map (·.1)

/-- The constructor of a name. -/
def lookup (r : Registry) (name : String) : Option Maker :=
  (r.entries.find? (·.1 = name)).map (·.2)

end Registry

end ConfigTables.Hub
