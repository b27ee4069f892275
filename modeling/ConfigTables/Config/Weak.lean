import ConfigTables.Data.Shape
import ConfigTables.Number.Binary64
import ConfigTables.Number.Literal
import ConfigTables.Time.Duration
/-!
# Reading settings of loose types

Settings come from documents, the environment and flags, so a value is read leniently into
the type a setting wants:

* text takes text as it is, a truth value as `1` or `0` and a number in plain decimal;
* a whole number takes a number (cut toward zero), a truth value as 1 or 0, and text in the
  notation of program literals (sign, `0x`/`0o`/`0b` or a leading `0` for octal,
  underscores between digits), the empty text being 0;
* a truth value takes a number (true unless zero) and the words `1 t T TRUE true True` and
  `0 f F FALSE false False`, the empty text being false;
* a real number takes numbers, truth values and decimal text;
* a duration takes text such as `1m30s` and numbers of nanoseconds;
* a list of text takes a list, text split at commas (empty text giving an empty list), or a
  single value as a list of one.

A value that cannot be read leaves the setting as it was and gives a fault that names the
setting: `'<name>' expected type '<type>', got unconvertible type '<type>'` or
`'<name>' cannot parse value as '<type>': <reason>`. The reason never repeats the value.
-/

namespace ConfigTables.Config

open ConfigTables.Literal

/-- The kind of a value, as faults about dictionaries name it. -/
def kindOf : Dynamic → String
  | .null => "invalid"
  | .bool _ => "bool"
  | .float _ => "float64"
  | .nat _ | .neg _ => "int"
  | .text _ => "string"
  | .octets _ | .list _ => "slice"
  | .dict _ | .anyDict _ => "map"
  | .tagged _ _ | .bigInt _ | .time _ => "struct"

/-- The type of a value, as faults about unconvertible values name it. -/
def typeOf : Dynamic → String
  | .null => "<nil>"
  | .bool _ => "bool"
  | .float _ => "float64"
  | .nat _ | .neg _ => "int"
  | .text _ => "string"
  | .octets _ => "[]uint8"
  | .list _ => "[]interface {}"
  | .dict _ => "map[string]interface {}"
  | .anyDict _ => "map[interface {}]interface {}"
  | .tagged _ _ => "cbor.Tag"
  | .bigInt _ => "big.Int"
  | .time _ => "time.Time"

/-- The fault of a value of a type that cannot become the wanted one. -/
def unconvertible (name expected : String) (v : Dynamic) : String :=
  "'" ++ name ++ "' expected type '" ++ expected ++ "', got unconvertible type '" ++ typeOf v ++ "'"

/-- The fault of text that does not read as the wanted type. -/
def parseFault (name expected reason : String) : String :=
  "'" ++ name ++ "' cannot parse value as '" ++ expected ++ "': " ++ reason

/-- The fault of a value that should be a dictionary. -/
def notDictionary (name : String) (v : Dynamic) : String :=
  "'" ++ name ++ "' expected a map or struct, got \"" ++ kindOf v ++ "\""

/-- A fault of reading a duration with the written value left out: the text before its last
blank, or only `time: unknown unit` for an unknown unit. -/
def durationFault (e : String) : String :=
  if e.startsWith "time: unknown unit " then "time: unknown unit"
  else if e.startsWith "time: " then
    let cs := e.toList
    match (List.range cs.length).reverse.find? (fun i => cs[i]? = some ' ') with
    | some i => String.ofList (cs.take i)
    | none => e
  else e

/-! ## Reading one value -/

/-- Reads text. -/
def readText (name : String) (cur : String) : Dynamic → String × List String
  | .null => (cur, [])
  | .text s => (s, [])
  | .bool b => (if b then "1" else "0", [])
  | .nat n => (toString n, [])
  | .neg n => (toString n, [])
  | .float x => (x.formatF, [])
  | v => (cur, [unconvertible name "string" v])

/-- Reads a whole number of the named type. -/
def readWhole (name expected : String) (cur : Int) : Dynamic → Int × List String
  | .null => (cur, [])
  | .nat n => (n, [])
  | .neg n => (n, [])
  | .float x => (wholeOf x, [])
  | .bool b => (if b then 1 else 0, [])
  | .text s =>
    match parseWhole (if s = "" then "0" else s) with
    | .ok n => (n, [])
    | .error e => (cur, [parseFault name expected ("strconv.ParseInt: " ++ e)])
  | v => (cur, [unconvertible name expected v])

/-- Reads a duration in nanoseconds: text in duration notation, or a whole number. -/
def readDuration (name : String) (cur : Int) : Dynamic → Int × List String
  | .text s =>
    match Time.parseDuration s with
    | .ok ns => (ns, [])
    | .error e => (cur, ["'" ++ name ++ "' " ++ durationFault e])
  | v => readWhole name "time.Duration" cur v

/-- Reads a truth value. -/
def readTruth (name : String) (cur : Bool) : Dynamic → Bool × List String
  | .null => (cur, [])
  | .bool b => (b, [])
  | .nat n => (n ≠ 0, [])
  | .neg _ => (true, [])
  | .float x => (!x.isZero, [])
  | .text s =>
    match parseTruth s with
    | .ok b => (b, [])
    | .error e =>
      if s = "" then (false, []) else (cur, [parseFault name "bool" ("strconv.ParseBool: " ++ e)])
  | v => (cur, [unconvertible name "bool" v])

/-- Reads a real number. -/
def readReal (name : String) (cur : Binary64) : Dynamic → Binary64 × List String
  | .null => (cur, [])
  | .float x => (x, [])
  | .nat n => (Binary64.ofInt n, [])
  | .neg n => (Binary64.ofInt n, [])
  | .bool b => (Binary64.ofInt (if b then 1 else 0), [])
  | .text s =>
    match parseReal (if s = "" then "0" else s) with
    | .ok x => (x, [])
    | .error e => (cur, [parseFault name "float64" ("strconv.ParseFloat: " ++ e)])
  | v => (cur, [unconvertible name "float64" v])

/-- Reads the items of a list of text, each from empty text. -/
def readTextItems (name : String) (xs : List Dynamic) : List String × List String :=
  let rs := (List.range xs.length).zip xs |>.map fun (i, x) =>
    readText (name ++ "[" ++ toString i ++ "]") "" x
  (rs.map (·.1), rs.flatMap (·.2))

/-- Reads a list of text: a list, text split at commas, or one value as a list of one. -/
def readTexts (name : String) (cur : List String) : Dynamic → List String × List String
  | .null => (cur, [])
  | .text s => (if s = "" then [] else s.splitOn ",", [])
  | .list xs => readTextItems name xs
  | .dict [] => ([], [])
  | v => readTextItems name [v]

end ConfigTables.Config
