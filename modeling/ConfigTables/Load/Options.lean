import ConfigTables.Fault.Json
import ConfigTables.Fault
import ConfigTables.Payload
import ConfigTables.Text.CaseMap
import ConfigTables.Text.Chars
/-!
# Load options

How a table is loaded is set in two layers: global options, and an override per table name.
Both layers hold the shared settings, each of which may be unset: whether unknown JSON
members are ignored, a custom reader of file octets, a custom load step, the directories
searched for patch files, and the load mode. An override also names an explicit file, explicit
patch files and how patches combine.

The options of one table (`Options.forTable`) take each shared setting from the override when
it is set there (patch directories: when the override lists some) and from the global layer
otherwise; the explicit file, patch files and patch rule always come from the override.

Described as JSON, the resolved options of a table are given member by member: which shared
options were set and to what, the values in force, the table's own file, patch files and patch
rule. A load step is described by the payload it left and its fault, or by the value of the
panic that stopped it.
-/

namespace ConfigTables.Load

/-- Which of a table's files are read: `all` (main file, then patches), `onlyMain`,
`onlyPatch`; other codes are kept. -/
structure Mode where
  code : Int
  deriving Repr, DecidableEq, Inhabited

namespace Mode

/-- The main file and then the patches. -/
def all : Mode := ⟨0⟩
/-- The main file only. -/
def onlyMain : Mode := ⟨1⟩
/-- The patches only. -/
def onlyPatch : Mode := ⟨2⟩

/-- The word naming a mode; other codes print as `Mode(n)`. -/
def name (m : Mode) : String :=
  match m.code with
  | 0 => "all"
  | 1 => "only_main"
  | 2 => "only_patch"
  | n => "Mode(" ++ toString n ++ ")"

/-- Reads a mode from a word, ignoring case; the empty word is `all`. A failure still carries
`all`. -/
def parse (s : String) : Mode × Option String :=
  match Text.CaseMap.lower s with
  | "" | "all" => (all, none)
  | "only_main" => (onlyMain, none)
  | "only_patch" => (onlyPatch, none)
  | _ => (all, some ("unknown load mode " ++ Text.Quoted.quote s))

end Mode

/-- How patch files combine with a table's payload: `merge` every patch over the main
payload, or `replace` it by the last patch; other codes are kept. -/
structure PatchRule where
  code : Int
  deriving Repr, DecidableEq, Inhabited

namespace PatchRule

/-- Every patch merged over the main payload. -/
def merge : PatchRule := ⟨0⟩
/-- The last patch instead of the main file. -/
def replace : PatchRule := ⟨1⟩

/-- The word naming a patch rule; other codes print as `Patch(n)`. -/
def name (p : PatchRule) : String :=
  match p.code with
  | 0 => "merge"
  | 1 => "replace"
  | n => "Patch(" ++ toString n ++ ")"

/-- Reads a patch rule from a word, ignoring case; the empty word is `merge`. A failure
still carries `merge`. -/
def parse (s : String) : PatchRule × Option String :=
  match Text.CaseMap.lower s with
  | "" | "merge" => (merge, none)
  | "replace" => (replace, none)
  | _ => (merge, some ("unknown patch type " ++ Text.Quoted.quote s))

end PatchRule

/-- A custom reader of a file's octets. -/
abbrev Reader := String → Except Fault (List UInt8)

/-- What a load step did: filled the payload, failed (leaving the payload as it got it), or
panicked with a value. -/
inductive Step where
  | filled (p : Payload)
  | failed (p : Payload) (f : Fault)
  | panicked (value : String)
  deriving Inhabited

/-- A custom load step: given the payload, the file and its format, fills the payload. -/
abbrev Loader := Payload → String → Format → Step

/-- The settings shared by the global layer and the overrides; `none` is unset. -/
structure Shared where
  ignoreUnknown : Option Bool
  reader : Option Reader
  loader : Option Loader
  patchDirs : List String
  mode : Option Mode
  deriving Inhabited

/-- Nothing set. -/
def Shared.unset : Shared := ⟨none, none, none, [], none⟩

/-- The options of one table. -/
structure TableOptions where
  shared : Shared
  /-- A file read instead of the one in the table directory; its extension decides the format. -/
  path : String
  /-- Patch files used instead of searching the patch directories. -/
  patchPaths : List String
  patch : PatchRule
  deriving Inhabited

namespace TableOptions

/-- Nothing set. -/
def unset : TableOptions := ⟨Shared.unset, "", [], PatchRule.merge⟩

/-- Whether unknown JSON members are ignored; unset is no. -/
def ignoreUnknown (o : TableOptions) : Bool := o.shared.ignoreUnknown.getD false

/-- The load mode; unset is `all`. -/
def mode (o : TableOptions) : Mode := o.shared.mode.getD Mode.all

end TableOptions

/-- Global options and the overrides by table name, in name order. -/
structure Options where
  shared : Shared
  overrides : List (String × TableOptions)
  deriving Inhabited

namespace Options

/-- Nothing set. -/
def empty : Options := ⟨Shared.unset, []⟩

/-- The override for a table name. -/
def override? (o : Options) (name : String) : Option TableOptions :=
  (o.overrides.find? (·.1 = name)).map (·.2)

/-- The options of one table: the override's settings where set, the global ones elsewhere. -/
def forTable (o : Options) (name : String) : TableOptions :=
  match o.override? name with
  | none => ⟨o.shared, "", [], PatchRule.merge⟩
  | some mo =>
    let g := o.shared
    let m := mo.shared
    ⟨⟨m.ignoreUnknown.or g.ignoreUnknown, m.reader.or g.reader, m.loader.or g.loader,
      if m.patchDirs.isEmpty then g.patchDirs else m.patchDirs, m.mode.or g.mode⟩,
      mo.path, mo.patchPaths, mo.patch⟩

/-- The options of one table when there may be no options at all. -/
def resolve (o : Option Options) (name : String) : TableOptions :=
  match o with
  | some o => o.forTable name
  | none => TableOptions.unset

/-- The override names, in order. -/
def overrideNames (o : Options) : List String := o.overrides.map (·.1)

/-- Sets or removes the override of a table name. -/
def setOverride (o : Options) (name : String) (mo : Option TableOptions) : Options :=
  let rest := o.overrides.filter (·.1 ≠ name)
  match mo with
  | none => { o with overrides := rest }
  | some mo => { o with overrides := insertSorted name mo rest }

end Options

/-- One change to the options. -/
inductive Setter where
  | ignoreUnknown (b : Bool)
  | reader (r : Reader)
  | loader (l : Loader)
  | patchDirs (dirs : List String)
  | mode (m : Mode)
  /-- Replaces the override of a table, or removes it. -/
  | table (name : String) (o : Option TableOptions)
  /-- Points a table at an explicit file, keeping its other overrides. -/
  | path (name : String) (p : String)

/-- Applies one setter. -/
def Setter.apply (o : Options) : Setter → Options
  | .ignoreUnknown b => { o with shared := { o.shared with ignoreUnknown := some b } }
  | .reader r => { o with shared := { o.shared with reader := some r } }
  | .loader l => { o with shared := { o.shared with loader := some l } }
  | .patchDirs ds => { o with shared := { o.shared with patchDirs := ds } }
  | .mode m => { o with shared := { o.shared with mode := some m } }
  | .table n mo => o.setOverride n mo
  | .path n p =>
    let base := (o.override? n).getD TableOptions.unset
    o.setOverride n (some { base with path := p })

/-- Options built by applying setters in order over empty options. -/
def Options.ofSetters (ss : List Setter) : Options :=
  ss.foldl Setter.apply Options.empty

end ConfigTables.Load

namespace ConfigTables.Load

/-- A payload as JSON; a payload that cannot be written is described by the fault. -/
def payloadJson (p : Payload) : Json :=
  match p.toJson with
  | .ok v => v
  | .error e => .object [("marshal_error", Fault.textJson e)]

/-- The resolved options of a table as JSON. -/
def TableOptions.toJson (t : TableOptions) : Json :=
  .object [("ignore_unknown_fields_set", match t.shared.ignoreUnknown with | some x => .bool x | none => .null),
    ("ignore_unknown_fields", .bool t.ignoreUnknown), ("custom_read_func", .bool t.shared.reader.isSome),
    ("custom_load_func", .bool t.shared.loader.isSome), ("patch_dirs", Json.strings t.shared.patchDirs),
    ("mode_set", Json.optString (t.shared.mode.map (·.name))), ("mode", .string t.mode.name),
    ("path", .string t.path), ("patch_paths", Json.strings t.patchPaths), ("patch", .string t.patch.name)]

/-- A load step as JSON. -/
def Step.toJson : Step → Json
  | .filled p => .object [("payload", payloadJson p), ("error", .null)]
  | .failed p f => .object [("payload", payloadJson p), ("error", f.toJson)]
  | .panicked v => .object [("error", .string "panic"), ("message", .string v)]

end ConfigTables.Load
