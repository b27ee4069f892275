import ConfigTables.Data.Shape
import ConfigTables.Json.Value
import ConfigTables.Text.Octets
/-!
# Writing shaped data as JSON

A datum becomes a JSON value: integers and texts as themselves, absent lists, references and
dictionaries as `null`, records as objects with their fields in declaration order (a field
marked so is left out when empty: zero, the empty text, an absent or empty list, an absent
reference or dictionary), dictionaries with their keys in ascending order. Floats are written
by `Binary64.formatData`; octet strings as Base64 texts; time stamps as RFC 3339 texts.

Three values have no JSON form and make writing fail: a float that is not finite, a
dictionary whose keys are not all texts, and a time stamp whose year or zone RFC 3339 cannot
hold.
-/

namespace ConfigTables

/-- Whether a datum counts as empty for a field that leaves empty values out. -/
def Datum.isEmpty : Datum → Bool
  | .int n => n = 0
  | .text s => s.isEmpty
  | .list none => true
  | .list (some xs) => xs.isEmpty
  | .ref none => true
  | .dict none => true
  | .dict (some es) => es.isEmpty
  | .dynamic .null => true
  | _ => false

/-- The text of a float that has no JSON form. -/
def floatWord (x : Binary64) : String :=
  if x.isNaN then "NaN" else if x.negative then "-Inf" else "+Inf"

mutual
/-- A free-form value as JSON. -/
def Dynamic.toJson : Dynamic → Except String Json
  | .null => pure .null
  | .bool b => pure (.bool b)
  | .float x =>
    if x.isFinite then pure (.number x.formatData)
    else throw ("json: unsupported value: " ++ floatWord x)
  | .nat n => pure (.number (toString n))
  | .neg n => pure (.number (toString n))
  | .text s => pure (.string s)
  | .octets bs => pure (.string (Text.Base64.encode bs))
  | .list xs => return .array (← Dynamic.toJsonItems xs)
  | .dict es => return .object (← Dynamic.toJsonMembers es)
  | .anyDict _ => throw "json: unsupported type: map[interface {}]interface {}"
  | .tagged t c => return .object [("Number", .number (toString t)), ("Content", ← c.toJson)]
  | .bigInt _ => pure (.object [])
  | .time t =>
    match t.text with
    | .ok s => pure (.string s)
    | .error e => throw ("json: error calling MarshalJSON for type time.Time: Time.MarshalJSON: " ++ e)
/-- Items as JSON. -/
def Dynamic.toJsonItems : List Dynamic → Except String (List Json)
  | [] => pure []
  | x :: xs => return (← x.toJson) :: (← Dynamic.toJsonItems xs)
/-- Dictionary entries as JSON members. -/
def Dynamic.toJsonMembers : List (String × Dynamic) → Except String (List (String × Json))
  | [] => pure []
  | (k, v) :: es => return (k, ← v.toJson) :: (← Dynamic.toJsonMembers es)
end

mutual
/-- A datum of a shape as JSON. -/
def Datum.toJson : Shape → Datum → Except String Json
  | _, .int n => pure (.number (toString n))
  | _, .text s => pure (.string s)
  | _, .list none => pure .null
  | .list e, .list (some xs) => return .array (← Datum.toJsonItems e xs)
  | _, .list (some _) => pure (.array [])
  | _, .ref none => pure .null
  | .ref t, .ref (some d) => Datum.toJson t d
  | s, .ref (some d) => Datum.toJson s d
  | .record r, .record fs => return .object (← Datum.toJsonFields r.fields fs)
  | _, .record _ => pure (.object [])
  | _, .dict none => pure .null
  | _, .dict (some es) => return .object (← Dynamic.toJsonMembers es)
  | _, .dynamic d => d.toJson
/-- Items of a list as JSON. -/
def Datum.toJsonItems (e : Shape) : List Datum → Except String (List Json)
  | [] => pure []
  | x :: xs => return (← Datum.toJson e x) :: (← Datum.toJsonItems e xs)
/-- Fields of a record as JSON members, empty values left out where the field says so. -/
def Datum.toJsonFields : List Field → List Datum → Except String (List (String × Json))
  | f :: fs, d :: ds =>
    if f.omitEmpty && d.isEmpty then Datum.toJsonFields fs ds
    else return (f.name, ← Datum.toJson f.shape d) :: (← Datum.toJsonFields fs ds)
  | _, _ => pure []
end

end ConfigTables
