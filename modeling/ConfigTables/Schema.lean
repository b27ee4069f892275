import ConfigTables.Hub.Registry
import ConfigTables.Json.Value
/-!
# JSON Schemas of payloads

A record payload is described by a draft 2020-12 JSON Schema: an object with its fields as
properties (nested records inline, not by reference), no other properties, and the fields
that are never left out as required. Whole numbers are integers, texts strings, lists arrays
of their items' schema, and a field's constraints (`minimum`, `minLength`, `enum`) are
stated with it. A free-form message is described only as an object with a description naming
its message type. Every schema's title is the table's name.

Members appear in the order the schema vocabulary lists them: items, properties, additional
properties, type, enum, minimum, minimum length, required, title, description.
-/

namespace ConfigTables

/-- The address of the schema vocabulary. -/
def schemaVersion : String := "https://json-schema.org/draft/2020-12/schema"

/-- The constraint members of a field: enumerations, then minimums, then minimum lengths. -/
def constraintMembers (cs : List (String × String)) : List (String × Json) :=
  let enums := cs.filter (·.1 = "enum")
  (if enums.isEmpty then [] else [("enum", .array (enums.map (.string ·.2)))]) ++
    (cs.filter (·.1 = "minimum")).map (fun c => ("minimum", .number c.2)) ++
    (cs.filter (·.1 = "minLength")).map (fun c => ("minLength", .number c.2))

mutual
/-- The schema members of a shape with the given constraints. -/
def Shape.schemaMembers (fuel : Nat) (s : Shape) (cs : List (String × String)) : List (String × Json) :=
  match fuel with
  | 0 => []
  | fuel + 1 =>
    match s with
    | .int32 | .int64 => [("type", .string "integer")] ++ constraintMembers cs
    | .text => [("type", .string "string")] ++ constraintMembers cs
    | .list e => [("items", .object (Shape.schemaMembers fuel e [])), ("type", .string "array")] ++ constraintMembers cs
    | .ref t => Shape.schemaMembers fuel t cs
    | .record r => Record.schemaMembers fuel r
    | .dict => [("type", .string "object")]
    | .dynamic => []
/-- The schema members of a record: its properties, no others, and the required ones. -/
def Record.schemaMembers (fuel : Nat) (r : Record) : List (String × Json) :=
  let required := (r.fields.filter (!·.omitEmpty)).map (·.name)
  [("properties", .object (r.fields.map fun f => (f.name, .object (Shape.schemaMembers fuel f.shape f.constraints)))),
    ("additionalProperties", .bool false), ("type", .string "object")] ++
    (if required.isEmpty then [] else [("required", .array (required.map .string))])
end

/-- The schema of a payload, titled with a table's name, or why there is none. -/
def Payload.schema (title : String) : Payload → Except String Json
  | .record r _ =>
    .ok (.object ([("$schema", .string schemaVersion)] ++ Record.schemaMembers 8 r ++ [("title", .string title)]))
  | .message _ =>
    .ok (.object [("$schema", .string schemaVersion), ("type", .string "object"), ("title", .string title),
      ("description", .string "protobuf message google.protobuf.Struct")])
  | .none => .error (title ++ ": nil payload")
  | .dict _ | .dictValue _ => .error (title ++ ": payload must be a struct or pointer to struct, got map")
  | .text _ => .error (title ++ ": payload must be a struct or pointer to struct, got string")

/-- The schemas of the named tables of a registry (all of them when no name is given), by
name. A constructor that gives no table cannot be described: that stops with the error of
reading through nothing. -/
def Hub.Registry.schemas (r : Hub.Registry) (names : List String) :
    Except String (Except String (List (String × Json))) :=
  let names := if names.isEmpty then r.names else names
  names.foldlM (fun (acc : Except String (List (String × Json))) name =>
    match acc with
    | .error e => .ok (.error e)
    | .ok done =>
      match r.lookup name with
      | none => .ok (.error ("unknown table " ++ Text.Quoted.quote name))
      | some .absent => .error "runtime error: invalid memory address or nil pointer dereference"
      | some (.table k) =>
        let t := Hub.Table.fresh k
        match t.message.schema t.name with
        | .ok s => .ok (.ok (done ++ [(name, s)]))
        | .error e => .ok (.error e)) (.ok [])

end ConfigTables
