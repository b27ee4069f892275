import ConfigTables.Data.Shape
import ConfigTables.Json.Value
import ConfigTables.Text.CaseMap
import ConfigTables.Text.Chars
/-!
# Reading JSON into shaped data

A JSON value is read into a datum of a given shape, over the datum already there, by these
rules:

* `null` empties a list, reference, dictionary or free-form value and leaves a number, text
  or record as it is;
* a reference that is absent is filled with the zero of its target before the target is read,
  so a value of the wrong kind still leaves a present, zero target behind;
* a list is read item by item over the items already there, and is cut or grown to the length
  of the JSON array; an empty array gives a present, empty list;
* a record takes each member by its field's name, matched exactly or else ignoring case,
  and keeps the fields no member names; a member naming no field is refused when reading is
  strict and skipped otherwise;
* a dictionary keeps its entries and takes each member as a free-form value;
* numbers go to integer fields only when they are written as whole numbers within range.

A value of the wrong kind does not stop reading: the first such fault is kept and reported
once the whole value has been read, together with the datum as far as it could be filled.
The fault names the kind of JSON value, where it stood (the innermost record and the field
names from the outermost one), and the shape it could not become.
-/

namespace ConfigTables

/-- Where a value is being read: the innermost record and the field names that lead to it. -/
structure Place where
  record : Option String
  path : List String

/-- The top of a document. -/
def Place.top : Place := ⟨none, []⟩

/-- The fault of a JSON value of kind `what` that cannot become a value of type `type`. -/
def Place.typeFault (p : Place) (what type : String) : String :=
  match p.record with
  | some r => "json: cannot unmarshal " ++ what ++ " into Go struct field " ++ r ++ "." ++
      ".".intercalate p.path ++ " of type " ++ type
  | none => "json: cannot unmarshal " ++ what ++ " into Go value of type " ++ type

/-- The first of two faults. -/
def firstFault (a b : Option String) : Option String :=
  match a with
  | some _ => a
  | none => b

/-- The float of a number literal, or the fault of one out of range. -/
def floatOfLiteral (p : Place) (lit : String) : Option Binary64 × Option String :=
  match Binary64.ofLiteral? lit with
  | some x => if x.isFinite then (some x, none) else (none, some (p.typeFault ("number " ++ lit) "float64"))
  | none => (none, some (p.typeFault ("number " ++ lit) "float64"))

mutual
/-- A JSON value as a free-form value: numbers become floats, objects dictionaries in which a
repeated name keeps its last value. -/
def Dynamic.ofJson : Json → Dynamic × Option String
  | .null => (.null, none)
  | .bool b => (.bool b, none)
  | .number lit =>
    match floatOfLiteral Place.top lit with
    | (some x, e) => (.float x, e)
    | (none, e) => (.null, e)
  | .string s => (.text s, none)
  | .array xs =>
    let (ys, e) := Dynamic.ofJsonItems xs
    (.list ys, e)
  | .object ms =>
    let (es, e) := Dynamic.ofJsonMembers [] ms
    (.dict es, e)
/-- Items of an array as free-form values. -/
def Dynamic.ofJsonItems : List Json → List Dynamic × Option String
  | [] => ([], none)
  | x :: xs =>
    let (y, e1) := Dynamic.ofJson x
    let (ys, e2) := Dynamic.ofJsonItems xs
    (y :: ys, firstFault e1 e2)
/-- Members of an object added to a dictionary. -/
def Dynamic.ofJsonMembers (acc : List (String × Dynamic)) :
    List (String × Json) → List (String × Dynamic) × Option String
  | [] => (acc, none)
  | (k, v) :: ms =>
    let (d, e1) := Dynamic.ofJson v
    let (es, e2) := Dynamic.ofJsonMembers (insertSorted k d acc) ms
    (es, firstFault e1 e2)
end

/-- A reference's target shape and current target, a missing target becoming the zero of its
shape; other shapes stand for themselves. The flag says whether a reference was opened. -/
def openRef (s : Shape) (cur : Datum) : Shape × Datum × Bool :=
  match s with
  | .ref t =>
    let target := match cur with
      | .ref (some d) => d
      | _ => t.zero
    (t, target, true)
  | _ => (s, cur, false)

/-- A target put back behind its reference when one was opened. -/
def closeRef (opened : Bool) (d : Datum) : Datum :=
  if opened then .ref (some d) else d

/-- The index of the field a member name selects: exact match first, then the first field
whose name has the same case-insensitive key. -/
def fieldIndex (fs : List Field) (key : String) : Option Nat :=
  match fs.findIdx? (·.name = key) with
  | some i => some i
  | none => fs.findIdx? (fun f => Text.CaseMap.nameKey f.name = Text.CaseMap.nameKey key)

/-- A whole number within the range of a shape's bits. -/
def wholeInRange (s : Shape) (lit : String) : Option Int :=
  match Binary64.wholeLiteral? lit with
  | some n =>
    let inInt64 := -(Nat.pow 2 63 : Int) ≤ n && n < Nat.pow 2 63
    let inShape := match s with
      | .int32 => -(Nat.pow 2 31 : Int) ≤ n && n < Nat.pow 2 31
      | _ => true
    if inInt64 && inShape then some n else none
  | none => none

mutual
/-- Reads a JSON value into a datum of shape `s` over the current datum `cur`. -/
def Datum.readJson (strict : Bool) (p : Place) (s : Shape) (cur : Datum) : Json → Datum × Option String
  | .null =>
    match s with
    | .ref _ | .list _ | .dict | .dynamic => (s.zero, none)
    | _ => (cur, none)
  | .bool b =>
    let (t, target, opened) := openRef s cur
    match t with
    | .dynamic => (closeRef opened (.dynamic (.bool b)), none)
    | _ => (closeRef opened target, some (p.typeFault "bool" t.typeName))
  | .number lit =>
    let (t, target, opened) := openRef s cur
    match t with
    | .int32 | .int64 =>
      match wholeInRange t lit with
      | some n => (closeRef opened (.int n), none)
      | none => (closeRef opened target, some (p.typeFault ("number " ++ lit) t.typeName))
    | .dynamic =>
      match floatOfLiteral p lit with
      | (some x, _) => (closeRef opened (.dynamic (.float x)), none)
      | (none, e) => (closeRef opened target, e)
    | _ => (closeRef opened target, some (p.typeFault "number" t.typeName))
  | .string str =>
    let (t, target, opened) := openRef s cur
    match t with
    | .text => (closeRef opened (.text str), none)
    | .dynamic => (closeRef opened (.dynamic (.text str)), none)
    | _ => (closeRef opened target, some (p.typeFault "string" t.typeName))
  | .array xs =>
    let (t, target, opened) := openRef s cur
    match t with
    | .list e =>
      let old := match target with
        | .list (some ys) => ys
        | _ => []
      let (ys, err) := Datum.readJsonItems strict p e old xs
      (closeRef opened (.list (some ys)), err)
    | .dynamic =>
      let (d, err) := Dynamic.ofJson (.array xs)
      (closeRef opened (.dynamic d), err)
    | _ => (closeRef opened target, some (p.typeFault "array" t.typeName))
  | .object ms =>
    let (t, target, opened) := openRef s cur
    match t with
    | .record r =>
      let fields := match target with
        | .record fs => fs
        | _ => (Shape.record r).zero |> fun
          | .record fs => fs
          | _ => []
      let (fs, err) := Datum.readJsonMembers strict p r fields ms
      (closeRef opened (.record fs), err)
    | .dict =>
      let old := match target with
        | .dict (some es) => es
        | _ => []
      let (es, err) := Dynamic.ofJsonMembers old ms
      (closeRef opened (.dict (some es)), err)
    | .dynamic =>
      let (d, err) := Dynamic.ofJson (.object ms)
      (closeRef opened (.dynamic d), err)
    | _ => (closeRef opened target, some (p.typeFault "object" t.typeName))
/-- Reads array items over the items already there; the result has one item per JSON item. -/
def Datum.readJsonItems (strict : Bool) (p : Place) (e : Shape) :
    List Datum → List Json → List Datum × Option String
  | _, [] => ([], none)
  | old, x :: xs =>
    let (cur, rest) := match old with
      | y :: ys => (y, ys)
      | [] => (e.zero, [])
    let (y, e1) := Datum.readJson strict p e cur x
    let (ys, e2) := Datum.readJsonItems strict p e rest xs
    (y :: ys, firstFault e1 e2)
/-- Reads object members into the fields of a record, in member order. -/
def Datum.readJsonMembers (strict : Bool) (p : Place) (r : Record) (fields : List Datum) :
    List (String × Json) → List Datum × Option String
  | [] => (fields, none)
  | (k, v) :: ms =>
    match fieldIndex r.fields k with
    | some i =>
      match r.fields[i]?, fields[i]? with
      | some f, some cur =>
        let p' : Place := ⟨some r.name, p.path ++ [f.name]⟩
        let (d, e1) := Datum.readJson strict p' f.shape cur v
        let (fs, e2) := Datum.readJsonMembers strict p r (fields.set i d) ms
        (fs, firstFault e1 e2)
      | _, _ => Datum.readJsonMembers strict p r fields ms
    | none =>
      let e1 := if strict then some ("json: unknown field " ++ Text.Quoted.quote k) else none
      let (fs, e2) := Datum.readJsonMembers strict p r fields ms
      (fs, firstFault e1 e2)
end

end ConfigTables
