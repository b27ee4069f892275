import ConfigTables.Data.FromJson
import ConfigTables.Data.ToJson
import ConfigTables.Data.Cbor
import ConfigTables.Data.Merge
import ConfigTables.Json.Scan
import ConfigTables.Message.JsonForm
import ConfigTables.Message.Wire
import ConfigTables.Format
/-!
# Payloads and their codecs

A payload is what a table's file is read into: a record behind a reference, a free-form
message, a dictionary behind a reference, or a value that cannot be read into (a dictionary or
text held by value, or nothing at all).

Two codecs read and write payloads, one per loadable format:

* **JSON.** Records and dictionaries are read by the data rules of `Datum.readJson`; the text
  must hold one value, blanks apart (`unexpected data after top-level value`), and reading a
  value that is not behind a reference fails after the syntax is checked. Messages use their
  own JSON form, which starts from an empty message. Writing indents by two spaces.
* **Binary.** Records and dictionaries use canonical CBOR, messages the wire format.

Reading reports the payload as far as it was filled together with the first fault.
-/

namespace ConfigTables

/-- What a table's file is read into. -/
inductive Payload where
  /-- A record behind a reference. -/
  | record (r : Record) (fields : List Datum)
  /-- A free-form message. -/
  | message (o : Message.Object)
  /-- A dictionary behind a reference; `none` is an absent dictionary. -/
  | dict (entries : Option (List (String × Dynamic)))
  /-- A dictionary held by value. -/
  | dictValue (entries : List (String × Dynamic))
  /-- A text held by value. -/
  | text (s : String)
  /-- No payload at all. -/
  | none
  deriving Repr, Inhabited, BEq

/-- The fields of a record with nothing set. -/
def Record.zeroFields (r : Record) : List Datum :=
  r.fields.map (fun f => Shape.zero.zeroLeaf f.shape)

namespace Payload

/-- A record with nothing set. -/
def ofRecord (r : Record) : Payload := .record r r.zeroFields

/-- The type name of a payload, as diagnostics write it. -/
def typeName : Payload → String
  | .record r _ => "*" ++ r.qualifiedName
  | .message _ => "*structpb.Struct"
  | .dict _ => "*map[string]interface {}"
  | .dictValue _ => "map[string]interface {}"
  | .text _ => "string"
  | .none => "<nil>"

/-- The fault of reading into a payload that is not behind a reference, for a codec whose
faults start with `lead`. -/
def unreadable (lead : String) : Payload → Option String
  | .dictValue _ => some (lead ++ ": Unmarshal(non-pointer map[string]interface {})")
  | .text _ => some (lead ++ ": Unmarshal(non-pointer string)")
  | .none => some (lead ++ ": Unmarshal(nil)")
  | _ => Option.none

/-- Reads a payload from JSON; `strict` refuses members that name no field. -/
def readJson (strict : Bool) (bs : List UInt8) (p : Payload) : Payload × Option String :=
  match p with
  | .message _ =>
    let (o, e) := Message.Object.readJsonForm bs
    (.message o, e)
  | _ =>
    match Json.scanFirst bs with
    | .error e => (p, some e.message)
    | .ok (v, rest) =>
      let trailing := if Json.onlyBlank rest then Option.none
        else some "unexpected data after top-level value"
      match p with
      | .record r fs =>
        let (d, err) := Datum.readJson strict Place.top (.record r) (.record fs) v
        let fs' := match d with
          | .record xs => xs
          | _ => fs
        (.record r fs', firstFault err trailing)
      | .dict es =>
        let (d, err) := Datum.readJson strict Place.top .dict (.dict es) v
        let es' := match d with
          | .dict xs => xs
          | _ => es
        (.dict es', firstFault err trailing)
      | _ => (p, unreadable "json" p)

/-- Reads a payload from the binary format. -/
def readBinary (bs : List UInt8) (p : Payload) : Payload × Option String :=
  match p with
  | .message _ =>
    match Message.Wire.decode bs with
    | .ok o => (.message o, Option.none)
    | .error e => (.message [], some e)
  | _ =>
    match Cbor.parse bs with
    | .error e => (p, some e)
    | .ok item =>
      let fuel := bs.length + 2
      match p with
      | .record r fs =>
        let (d, err) := item.readInto fuel (.record r) (.record fs)
        let fs' := match d with
          | .record xs => xs
          | _ => fs
        (.record r fs', err.map Cbor.Fault.message)
      | .dict es =>
        let (d, err) := item.readInto fuel .dict (.dict es)
        let es' := match d with
          | .dict xs => xs
          | _ => es
        (.dict es', err.map Cbor.Fault.message)
      | _ => (p, unreadable "cbor" p)

/-- A payload as a JSON value, or why it has none. -/
def toJson : Payload → Except String Json
  | .record r fs => Datum.toJson (.record r) (.record fs)
  | .message o => Message.Object.toJson o
  | .dict Option.none => pure .null
  | .dict (some es) => Dynamic.toJson (.dict es)
  | .dictValue es => Dynamic.toJson (.dict es)
  | .text s => pure (.string s)
  | .none => pure .null

/-- A payload in canonical CBOR, or in the wire format for a message. -/
def toBinary : Payload → List UInt8
  | .record r fs => Cbor.encodeDatum (.record r) (.record fs)
  | .message o => Message.Wire.encode o
  | .dict Option.none => [0xF6]
  | .dict (some es) => Cbor.encodeDynamic (.dict es)
  | .dictValue es => Cbor.encodeDynamic (.dict es)
  | .text s => Cbor.textOctets s
  | .none => [0xF6]

/-- A fresh payload of the same type, to read a patch into; only payloads behind a reference
have one. -/
def fresh : Payload → Except String Payload
  | .record r _ => .ok (ofRecord r)
  | .message _ => .ok (.message [])
  | .dict _ => .ok (.dict Option.none)
  | _ => .error "payload must be a pointer to patch"

/-- Merges a patch payload over a payload of the same type: messages key by key, whole
values replaced; records and dictionaries by `Datum.mergeOver`. -/
def mergeOver (dst src : Payload) : Except String Payload :=
  match dst, src with
  | .message d, .message s => .ok (.message (Message.Object.mergeOver s d))
  | .record r ds, .record _ ss => return .record r (← Datum.mergeFields ds ss)
  | .dict d, .dict s => return .dict (← Dynamic.mergeDict d s)
  | d, _ => .ok d

end Payload

/-- A way of reading and writing payloads in one format. -/
inductive Codec where
  | json
  | binary
  deriving Repr, DecidableEq, Inhabited

namespace Codec

/-- The codec of a format; text and unknown formats have none. -/
def ofFormat : Format → Except String Codec
  | .json => .ok .json
  | .binary => .ok .binary
  | f => .error ("no codec for format " ++ f.name)

/-- The format a codec reads and writes. -/
def format : Codec → Format
  | .json => .json
  | .binary => .binary

/-- Reads a payload; `ignoreUnknown` lets JSON members that name no field pass. -/
def read (c : Codec) (ignoreUnknown : Bool) (bs : List UInt8) (p : Payload) : Payload × Option String :=
  match c with
  | .json => p.readJson (!ignoreUnknown) bs
  | .binary => p.readBinary bs

/-- The JSON text of a payload, indented by two spaces. -/
def jsonText (p : Payload) : Except String String :=
  match p with
  | .message _ => return Json.indented Json.StringStyle.message "  " "" (← p.toJson)
  | _ => return Json.indented Json.StringStyle.data "  " "" (← p.toJson)

/-- Writes a payload. -/
def write (c : Codec) (p : Payload) : Except String (List UInt8) :=
  match c with
  | .json => return Text.Utf8.encode (← jsonText p)
  | .binary => .ok p.toBinary

end Codec

end ConfigTables
