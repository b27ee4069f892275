import ConfigTables.Files.Path
import ConfigTables.Text.Chars
import ConfigTables.Text.CaseMap
/-!
# Table file formats

A table file is JSON, binary, or text; a fourth value, `unknown`, is what an unrecognised
extension resolves to. Only JSON and binary files can be loaded or stored. A format is named
by a word (`json`, `binary`, `text`, `unknown`) and has a file extension (`.json`, `.binpb`,
`.txtpb`, `.unknown`).

Reading a format from a path looks only at the extension of its last element, ignoring
case, and knows only `.json` and `.binpb`. Reading a format from a word trims white space,
drops one leading dot and ignores case, and accepts `json`, `binary`, `bin`, `binpb`, `text`,
`txt` and `txtpb`.
-/

namespace ConfigTables

/-- How a table file is encoded. -/
inductive Format where
  | unknown
  | json
  | binary
  | text
  deriving Repr, DecidableEq, Inhabited

namespace Format

/-- The number a format is stored as; every other number reads back as `unknown`. -/
def code : Format → Nat
  | unknown => 0
  | json => 1
  | binary => 2
  | text => 3

/-- The format stored as a number. -/
def ofCode : Int → Format
  | 1 => json
  | 2 => binary
  | 3 => text
  | _ => unknown

/-- The word naming a format. -/
def name : Format → String
  | unknown => "unknown"
  | json => "json"
  | binary => "binary"
  | text => "text"

/-- The format named by its exact word. -/
def ofName? : String → Option Format
  | "unknown" => some unknown
  | "json" => some json
  | "binary" => some binary
  | "text" => some text
  | _ => none

/-- The file extension of a format, dot included. -/
def ext : Format → String
  | unknown => ".unknown"
  | json => ".json"
  | binary => ".binpb"
  | text => ".txtpb"

/-- Whether tables can be read from and written in this format. -/
def loadable : Format → Bool
  | json | binary => true
  | _ => false

/-- The format a file's extension shows: `.json` and `.binpb` in any case, else `unknown`. -/
def ofPath (path : String) : Format :=
  match Text.CaseMap.lower (Files.Path.ext path) with
  | ".json" => json
  | ".binpb" => binary
  | _ => unknown

/-- The format a user's word names, after trimming, dropping one leading dot and lower-casing. -/
def ofWord? (s : String) : Option Format :=
  let t := Text.Blank.trim s
  let t := if t.startsWith "." then String.ofList (t.toList.drop 1) else t
  match Text.CaseMap.lower t with
  | "json" => some json
  | "binary" | "bin" | "binpb" => some binary
  | "text" | "txt" | "txtpb" => some text
  | _ => none

/-- The format a user's word names, or the fault naming the word. -/
def parse (s : String) : Except String Format :=
  match ofWord? s with
  | some f => .ok f
  | none => .error ("unknown format " ++ Text.Quoted.quote s)

end Format

end ConfigTables
