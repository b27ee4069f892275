import ConfigTables.Number.Binary64
import ConfigTables.Time.Stamp
/-!
# Shapes of table data

Table data is read into values of a fixed shape: 32- and 64-bit integers, texts, lists,
optional references, records with named fields, dictionaries from texts to free-form values,
and free-form values themselves. A `Shape` says which; a `Datum` is a value of a shape.
Lists, references and dictionaries may be absent (`none`), which a data file writes as
`null`, and an absent list differs from an empty one.

A free-form value (`Dynamic`) is what a data file holds when no shape is imposed: null,
booleans, numbers, texts, octet strings, lists and dictionaries, and the tagged items of the
binary format, with the time stamps and whole numbers of any size it has tags for.

The records are the rows of the three row tables (`hero`, `item`, `task`), the documents that
hold a table's rows (`heroes`, `items`, `tasks`), and a document holding a list of texts
(`texts`). Each field has a name in data files, a shape, whether an empty value is left out
when writing, and the constraints a schema states for it.
-/

namespace ConfigTables

/-- The records table data is made of. -/
inductive Record where
  | hero
  | item
  | task
  | heroes
  | items
  | tasks
  | texts
  deriving Repr, DecidableEq, Inhabited

/-- The shape of a value. -/
inductive Shape where
  | int32
  | int64
  | text
  | list (elem : Shape)
  | ref (target : Shape)
  | record (r : Record)
  | dict
  | dynamic
  deriving Repr, DecidableEq, Inhabited

/-- A field of a record. -/
structure Field where
  /-- The member name in data files. -/
  name : String
  shape : Shape
  /-- Whether an empty value (zero, empty text, absent or empty list) is left out. -/
  omitEmpty : Bool
  /-- Constraints a schema states, as name and value (`minimum`, `1`). -/
  constraints : List (String × String)
  deriving Repr

namespace Record

/-- The fields of a record, in declaration order. -/
def fields : Record → List Field
  | hero => [⟨"id", .int32, false, [("minimum", "1")]⟩, ⟨"name", .text, false, [("minLength", "1")]⟩,
      ⟨"class", .text, true, [("enum", "warrior"), ("enum", "mage"), ("enum", "rogue")]⟩,
      ⟨"level", .int32, true, []⟩]
  | item => [⟨"id", .int32, false, [("minimum", "1")]⟩, ⟨"name", .text, false, []⟩,
      ⟨"type", .text, false, []⟩, ⟨"price", .int64, true, [("minimum", "0")]⟩]
  | task => [⟨"id", .int32, false, [("minimum", "1")]⟩, ⟨"name", .text, false, []⟩,
      ⟨"reward_item_ids", .list .int32, true, []⟩]
  | heroes => [⟨"heroes", .list (.ref (.record hero)), false, []⟩]
  | items => [⟨"items", .list (.ref (.record item)), false, []⟩]
  | tasks => [⟨"tasks", .list (.ref (.record task)), false, []⟩]
  | texts => [⟨"values", .list .text, false, []⟩]

/-- The short name of a record type. -/
def name : Record → String
  | hero => "Hero"
  | item => "Item"
  | task => "Task"
  | heroes => "HeroConfData"
  | items => "ItemConfData"
  | tasks => "TaskConfData"
  | texts => "fakeData"

/-- The name of the package that declares a record type. -/
def package : Record → String
  | texts => "main"
  | _ => "protoconf"

/-- The qualified name of a record type. -/
def qualifiedName (r : Record) : String := r.package ++ "." ++ r.name

end Record

/-- The type name of a shape, as diagnostics write it. -/
def Shape.typeName : Shape → String
  | int32 => "int32"
  | int64 => "int64"
  | text => "string"
  | list e => "[]" ++ e.typeName
  | ref t => "*" ++ t.typeName
  | record r => r.qualifiedName
  | dict => "map[string]interface {}"
  | dynamic => "interface {}"

/-- A free-form value. -/
inductive Dynamic where
  | null
  | bool (b : Bool)
  | float (x : Binary64)
  /-- A non-negative whole number of the binary format. -/
  | nat (n : Nat)
  /-- A negative whole number of the binary format. -/
  | neg (n : Int)
  | text (s : String)
  | octets (bs : List UInt8)
  | list (items : List Dynamic)
  /-- A dictionary with text keys, kept in ascending key order. -/
  | dict (entries : List (String × Dynamic))
  /-- A dictionary with keys of any kind, kept in order of first insertion. -/
  | anyDict (entries : List (Dynamic × Dynamic))
  /-- A tagged item of the binary format. -/
  | tagged (tag : Nat) (content : Dynamic)
  /-- A whole number of any size (a bignum of the binary format, or a negative number past
  the 64-bit range). -/
  | bigInt (n : Int)
  /-- A time stamp of the binary format (a date-time text or an epoch time). -/
  | time (t : Time.Stamp)
  deriving Repr, Inhabited, BEq

/-- A value of some shape. -/
inductive Datum where
  | int (n : Int)
  | text (s : String)
  | list (items : Option (List Datum))
  | ref (target : Option Datum)
  | record (fields : List Datum)
  | dict (entries : Option (List (String × Dynamic)))
  | dynamic (d : Dynamic)
  deriving Repr, Inhabited, BEq

/-- The zero value of a shape: nothing set, nothing present. -/
def Shape.zero : Shape → Datum
  | int32 | int64 => .int 0
  | text => .text ""
  | list _ => .list none
  | ref _ => .ref none
  | record r => .record (r.fields.map (fun f => zeroLeaf f.shape))
  | dict => .dict none
  | dynamic => .dynamic .null
where
  /-- The zero of a field's shape; fields of records hold no records by value. -/
  zeroLeaf : Shape → Datum
    | int32 | int64 => .int 0
    | text => .text ""
    | list _ => .list none
    | ref _ => .ref none
    | record _ => .record []
    | dict => .dict none
    | dynamic => .dynamic .null

/-- Inserts or replaces a key of a dictionary kept in ascending key order. -/
def insertSorted {α : Type} (k : String) (v : α) : List (String × α) → List (String × α)
  | [] => [(k, v)]
  | (k', v') :: rest =>
    if k = k' then (k, v) :: rest
    else if k < k' then (k, v) :: (k', v') :: rest
    else (k', v') :: insertSorted k v rest

end ConfigTables
