import ConfigTables.Number.Binary64
import ConfigTables.Text.Utf8
/-!
# Free-form messages in the binary wire format

The protocol-buffer wire format of the free-form message types: a message is a sequence of
fields, each a key (field number and wire type, as a base-128 varint) followed by a varint,
eight or four little-endian octets, or a length-prefixed octet string.

* A dictionary is field 1 repeated, one entry per key: an entry holds the key as field 1 and
  the value as field 2. Entries are written in ascending key order.
* A value holds exactly one of: null (field 1, varint 0), a number (field 2, eight octets),
  a text (field 3), a boolean (field 4, varint), a dictionary (field 5) or a list (field 6).
* A list holds its items as field 1, repeated.

Reading skips fields it does not know or whose wire type does not fit, lets a later entry for
a key or a later kind of a value win (a dictionary or list read where one is already held
merges into it), and refuses anything that is not well-formed: a varint longer than ten
octets, a length past the end, field number zero or past 2^29 - 1, an unmatched group end or
an unknown wire type. Texts must be well-formed UTF-8. Fields are read in order, so the first
field that fails names the fault.

A free-form message is a dictionary from texts to values; a value is null, a number, a text, a
boolean, a nested dictionary, a list of values, or a value with no kind set (which a message
read from the binary format can hold). Dictionaries keep their keys in ascending order, so a
key appears once. Merging one message over another replaces each key of the second with the
value it has in the first, whole: nested dictionaries are not merged key by key, and lists are
not joined.
-/

namespace ConfigTables.Message

/-- A value of a free-form message. -/
inductive Value where
  | null
  | number (x : Binary64)
  | text (s : String)
  | bool (b : Bool)
  | object (fields : List (String × Value))
  | list (items : List Value)
  /-- A value whose kind was never set. -/
  | unset
  deriving Repr, Inhabited, BEq

/-- A free-form message: its fields in ascending key order. -/
abbrev Object := List (String × Value)

/-- Sets a key of a dictionary kept in ascending key order. -/
def Object.set (k : String) (v : Value) : Object → Object
  | [] => [(k, v)]
  | (k', v') :: rest =>
    if k = k' then (k, v) :: rest
    else if k < k' then (k, v) :: (k', v') :: rest
    else (k', v') :: Object.set k v rest

/-- The value of a key. -/
def Object.get? (o : Object) (k : String) : Option Value :=
  (o.find? (·.1 = k)).map (·.2)

/-- Whether a key is present. -/
def Object.has (o : Object) (k : String) : Bool :=
  o.any (·.1 = k)

/-- The message `src` merged over `dst`: every key of `src` takes its value from `src`. -/
def Object.mergeOver (src dst : Object) : Object :=
  src.foldl (fun acc (k, v) => Object.set k v acc) dst

end ConfigTables.Message

namespace ConfigTables.Message.Wire

/-- The varint octets of a natural number below 2^64. -/
def varint (n : Nat) : List UInt8 :=
  go 10 n
where
  /-- Seven bits a step, low bits first. -/
  go : Nat → Nat → List UInt8
    | 0, _ => []
    | k + 1, n => if n < 128 then [n.toUInt8] else (n % 128 + 128).toUInt8 :: go k (n / 128)

/-- A length-prefixed field. -/
def lengthField (key : Nat) (body : List UInt8) : List UInt8 :=
  varint key ++ varint body.length ++ body

/-- Eight little-endian octets. -/
def fixed64 (n : Nat) : List UInt8 :=
  (List.range 8).map (fun i => (n / Nat.pow 256 i % 256).toUInt8)

mutual
/-- The octets of a value. -/
def encodeValue : Value → List UInt8
  | .null => [0x08, 0x00]
  | .number x => 0x11 :: fixed64 x.bits.toNat
  | .text s => lengthField 0x1a (Text.Utf8.encode s)
  | .bool b => [0x20, if b then 1 else 0]
  | .object o => lengthField 0x2a (encodeEntries o)
  | .list xs => lengthField 0x32 (encodeItems xs)
  | .unset => []
/-- The octets of dictionary entries, in order. -/
def encodeEntries : List (String × Value) → List UInt8
  | [] => []
  | (k, v) :: rest =>
    lengthField 0x0a (lengthField 0x0a (Text.Utf8.encode k) ++ lengthField 0x12 (encodeValue v)) ++
      encodeEntries rest
/-- The octets of list items, in order. -/
def encodeItems : List Value → List UInt8
  | [] => []
  | v :: rest => lengthField 0x0a (encodeValue v) ++ encodeItems rest
end

/-- The octets of a message. -/
def encode (o : Object) : List UInt8 := encodeEntries o

/-- What follows a field key. -/
inductive Payload where
  | varint (n : Nat)
  | fixed64 (n : Nat)
  | bytes (bs : List UInt8)
  | fixed32 (n : Nat)
  | group

/-- A varint at the front and the rest, or none when malformed. -/
def readVarint (bs : List UInt8) : Option (Nat × List UInt8) :=
  go 0 0 bs
where
  /-- Accumulates seven bits a step; the tenth octet may hold one bit only. -/
  go : Nat → Nat → List UInt8 → Option (Nat × List UInt8)
    | _, _, [] => none
    | i, acc, b :: rest =>
      if i = 9 && b.toNat > 1 then none
      else
        let acc := acc + (b.toNat % 128) * Nat.pow 128 i
        if b.toNat < 128 then some (acc, rest)
        else if i ≥ 9 then none
        else go (i + 1) acc rest
  termination_by i _ _ => 10 - i

/-- `k` little-endian octets as a number, and the rest. -/
def readFixed (k : Nat) (bs : List UInt8) : Option (Nat × List UInt8) :=
  if bs.length < k then none
  else some (((bs.take k).zipIdx.map (fun (b, i) => b.toNat * Nat.pow 256 i)).foldl (· + ·) 0, bs.drop k)

/-- Skips a group's fields up to the end marker of field `num`. -/
def skipGroup (fuel num : Nat) (bs : List UInt8) : Option (List UInt8) :=
  match fuel with
  | 0 => none
  | fuel + 1 => do
    let (key, rest) ← readVarint bs
    let f := key / 8
    let wt := key % 8
    if f = 0 then none
    else if wt = 4 then (if f = num then some rest else none)
    else if wt = 0 then do let (_, r) ← readVarint rest; skipGroup fuel num r
    else if wt = 1 then do let (_, r) ← readFixed 8 rest; skipGroup fuel num r
    else if wt = 5 then do let (_, r) ← readFixed 4 rest; skipGroup fuel num r
    else if wt = 2 then do
      let (n, r) ← readVarint rest
      if r.length < n then none else skipGroup fuel num (r.drop n)
    else if wt = 3 then do let r ← skipGroup fuel f rest; skipGroup fuel num r
    else none

/-- The largest field number. -/
def maxField : Nat := 536870911

/-- The field at the front: its number, its payload and the rest, or none when malformed. -/
def field (bs : List UInt8) : Option (Nat × Payload × List UInt8) := do
  let (key, rest) ← readVarint bs
  let f := key / 8
  let wt := key % 8
  if f = 0 || f > maxField then none
  else
    let (p, r) ← (if wt = 0 then (readVarint rest).map (fun (n, r) => (Payload.varint n, r))
      else if wt = 1 then (readFixed 8 rest).map (fun (n, r) => (Payload.fixed64 n, r))
      else if wt = 5 then (readFixed 4 rest).map (fun (n, r) => (Payload.fixed32 n, r))
      else if wt = 2 then do
        let (n, r) ← readVarint rest
        if r.length < n then none else some (Payload.bytes (r.take n), r.drop n)
      else if wt = 3 then (skipGroup (rest.length + 1) f rest).map (fun r => (Payload.group, r))
      else none)
    pure (f, p, r)

/-- The fields of a message, number and payload of each in order, as far as they are
well-formed; and whether malformed octets follow them. Fields are taken one at a time, so
what goes wrong inside an earlier field is found before a malformed later one. -/
def fields (fuel : Nat) (bs : List UInt8) : List (Nat × Payload) × Bool :=
  match fuel with
  | 0 => ([], !bs.isEmpty)
  | fuel + 1 =>
    match bs with
    | [] => ([], false)
    | _ =>
      match field bs with
      | none => ([], true)
      | some (f, p, r) =>
        let (more, bad) := fields fuel r
        ((f, p) :: more, bad)

/-- The fault of malformed octets. -/
def wireFault : String := "proto: cannot parse invalid wire-format data"

/-- The fault of a text field that is not well-formed UTF-8. -/
def textFault : String := "string field contains invalid UTF-8"

/-- The text of a length-prefixed field, if it is well-formed UTF-8. -/
def text? (bs : List UInt8) : Except String String :=
  match Text.Utf8.valid? bs with
  | some s => .ok s
  | none => .error textFault

/-- The end of a message's fields: the fault when malformed octets follow them. -/
def finish {α : Type} (bad : Bool) (a : α) : Except String α :=
  if bad then .error wireFault else .ok a

mutual
/-- Reads a value message over `start`: a field of the kind `start` holds merges into it,
any other kind replaces it. -/
def decodeValue (fuel : Nat) (start : Value) (bs : List UInt8) : Except String Value :=
  match fuel with
  | 0 => .error wireFault
  | fuel + 1 =>
    let (fs, bad) := fields (bs.length + 1) bs
    decodeValueFields fuel bad start fs
termination_by (fuel, 0, 0)
/-- Applies the fields of a value message in order; a later kind replaces an earlier one,
and a dictionary or list of the kind already held merges into it. -/
def decodeValueFields (fuel : Nat) (bad : Bool) (acc : Value) :
    List (Nat × Payload) → Except String Value
  | [] => finish bad acc
  | (1, .varint _) :: rest => decodeValueFields fuel bad .null rest
  | (2, .fixed64 n) :: rest => decodeValueFields fuel bad (.number ⟨n.toUInt64⟩) rest
  | (3, .bytes b) :: rest => do
    let s ← text? b
    decodeValueFields fuel bad (.text s) rest
  | (4, .varint n) :: rest => decodeValueFields fuel bad (.bool (n ≠ 0)) rest
  | (5, .bytes b) :: rest => do
    let base := match acc with
      | .object o => o
      | _ => []
    let o ← decodeObject fuel base b
    decodeValueFields fuel bad (.object o) rest
  | (6, .bytes b) :: rest => do
    let base := match acc with
      | .list xs => xs
      | _ => []
    let xs ← decodeList fuel base b
    decodeValueFields fuel bad (.list xs) rest
  | _ :: rest => decodeValueFields fuel bad acc rest
termination_by fs => (fuel, 2, fs.length)
/-- Reads a dictionary message over the entries of `start`. -/
def decodeObject (fuel : Nat) (start : Object) (bs : List UInt8) : Except String Object :=
  match fuel with
  | 0 => .error wireFault
  | fuel + 1 =>
    let (fs, bad) := fields (bs.length + 1) bs
    decodeEntries fuel bad start fs
termination_by (fuel, 0, 0)
/-- Applies dictionary entries in order; a later entry for a key replaces the earlier one. -/
def decodeEntries (fuel : Nat) (bad : Bool) (acc : Object) :
    List (Nat × Payload) → Except String Object
  | [] => finish bad acc
  | (1, .bytes b) :: rest => do
    let (efs, ebad) := fields (b.length + 1) b
    let (k, v) ← decodeEntry fuel ebad "" Value.unset efs
    decodeEntries fuel bad (acc.set k v) rest
  | _ :: rest => decodeEntries fuel bad acc rest
termination_by fs => (fuel, 2, fs.length)
/-- Reads the fields of one dictionary entry in order: the key, and the value, each value
field merging into the value so far. -/
def decodeEntry (fuel : Nat) (bad : Bool) (k : String) (v : Value) :
    List (Nat × Payload) → Except String (String × Value)
  | [] => finish bad (k, v)
  | (1, .bytes kb) :: rest => do
    let k ← text? kb
    decodeEntry fuel bad k v rest
  | (2, .bytes vb) :: rest => do
    let v ← decodeValue fuel v vb
    decodeEntry fuel bad k v rest
  | _ :: rest => decodeEntry fuel bad k v rest
termination_by fs => (fuel, 1, fs.length)
/-- Reads a list message, its items after those of `start`. -/
def decodeList (fuel : Nat) (start : List Value) (bs : List UInt8) : Except String (List Value) :=
  match fuel with
  | 0 => .error wireFault
  | fuel + 1 =>
    let (fs, bad) := fields (bs.length + 1) bs
    decodeItems fuel bad start fs
termination_by (fuel, 0, 0)
/-- Appends the items of a list message in order. -/
def decodeItems (fuel : Nat) (bad : Bool) (acc : List Value) :
    List (Nat × Payload) → Except String (List Value)
  | [] => finish bad acc
  | (1, .bytes b) :: rest => do
    let v ← decodeValue fuel Value.unset b
    decodeItems fuel bad (acc ++ [v]) rest
  | _ :: rest => decodeItems fuel bad acc rest
termination_by fs => (fuel, 2, fs.length)
end

/-- Reads a message, or gives the fault of the first field that fails. -/
def decode (bs : List UInt8) : Except String Object :=
  decodeObject (bs.length + 2) [] bs

end ConfigTables.Message.Wire
