import ConfigTables.Data.Shape
import ConfigTables.Data.ToJson
import ConfigTables.Text.Utf8
import ConfigTables.Text.CaseMap
/-!
# Shaped data in CBOR

CBOR (RFC 8949) is the binary format of table data that is not a free-form message.

**Writing** is canonical: integers, lengths and tags take their shortest head; a float takes
the shortest of half, single or double precision that holds it exactly, a NaN is written as
the half-precision quiet NaN and an infinity in half precision; map entries are ordered by
the length of the encoded key and then by its octets. Records are maps from field names to
field values, empty values left out where the field says so; absent lists, references and
dictionaries are null.

**Reading** first checks that the input is exactly one well-formed item (no reserved
additional information, no stray break, at most 32 levels of nesting, nothing after it), and
then reads the item into a datum of the given shape over the datum already there:

* null and undefined empty a reference, list, dictionary or free-form value and leave
  anything else as it is;
* a map fills a record by field name, matched exactly or else ignoring case; a key met a
  second time for the same field is skipped, unknown keys are ignored;
* an array fills a list, reusing the items already there when there are enough of them;
* integers must fit the field; tags other than the self-describing one are read through.

A value of the wrong kind does not stop reading; the first such fault is reported, naming
the CBOR kind, the type it could not become and, inside a record, the outermost record type
and field.
-/

namespace ConfigTables.Cbor

/-- A CBOR data item. -/
inductive Item where
  | uint (n : Nat)
  /-- The negative integer `-1 - n`. -/
  | nint (n : Nat)
  | bytes (bs : List UInt8)
  /-- A text string, by the octets of its chunks: one chunk for a definite-length string. -/
  | text (chunks : List (List UInt8))
  | array (items : List Item)
  | map (entries : List (Item × Item))
  | tag (n : Nat) (content : Item)
  /-- A simple value: 20 false, 21 true, 22 null, 23 undefined. -/
  | simple (n : Nat)
  | float (x : Binary64)
  deriving Repr, Inhabited

/-- The word naming an item's major type in diagnostics. -/
def Item.kindName : Item → String
  | .uint _ => "positive integer"
  | .nint _ => "negative integer"
  | .bytes _ => "byte string"
  | .text _ => "UTF-8 text string"
  | .array _ => "array"
  | .map _ => "map"
  | .tag _ _ => "tag"
  | .simple _ | .float _ => "primitives"

/-- The word naming a major type number. -/
def majorName : Nat → String
  | 0 => "positive integer"
  | 1 => "negative integer"
  | 2 => "byte string"
  | 3 => "UTF-8 text string"
  | 4 => "array"
  | 5 => "map"
  | 6 => "tag"
  | _ => "primitives"

/-! ## Reading items -/

/-- The big-endian value of `k` octets at the front, and the rest. -/
def readBE (k : Nat) (bs : List UInt8) : Except String (Nat × List UInt8) :=
  if bs.length < k then .error "unexpected EOF"
  else .ok ((bs.take k).foldl (fun a b => a * 256 + b.toNat) 0, bs.drop k)

/-- A head: major type, additional information, argument (none when indefinite), rest. -/
def readHead (bs : List UInt8) : Except String (Nat × Nat × Option Nat × List UInt8) :=
  match bs with
  | [] => .error "unexpected EOF"
  | b :: rest =>
    let major := b.toNat / 32
    let ai := b.toNat % 32
    if ai < 24 then .ok (major, ai, some ai, rest)
    else if ai = 24 then (readBE 1 rest).map fun (v, r) => (major, ai, some v, r)
    else if ai = 25 then (readBE 2 rest).map fun (v, r) => (major, ai, some v, r)
    else if ai = 26 then (readBE 4 rest).map fun (v, r) => (major, ai, some v, r)
    else if ai = 27 then (readBE 8 rest).map fun (v, r) => (major, ai, some v, r)
    else if ai = 31 && (major = 2 || major = 3 || major = 4 || major = 5 || major = 7) then
      .ok (major, ai, none, rest)
    else .error ("cbor: invalid additional information " ++ toString ai ++ " for type " ++ majorName major)

/-- The most elements an array or map may announce. -/
def maxElements : Nat := 131072

mutual
/-- Reads one item at nesting depth `depth`; the item and the rest. -/
def readItem (fuel depth : Nat) (bs : List UInt8) : Except String (Item × List UInt8) :=
  match fuel with
  | 0 => .error "unexpected EOF"
  | fuel + 1 => do
    let (major, ai, arg, rest) ← readHead bs
    match major, arg with
    | 0, some v => pure (.uint v, rest)
    | 1, some v => pure (.nint v, rest)
    | 2, some n =>
      if rest.length < n then throw "unexpected EOF" else pure (.bytes (rest.take n), rest.drop n)
    | 3, some n =>
      if rest.length < n then throw "unexpected EOF" else pure (.text [rest.take n], rest.drop n)
    | 2, none => do
      let (chunks, r) ← readChunks fuel 2 [] rest
      pure (.bytes chunks.flatten, r)
    | 3, none => do
      let (chunks, r) ← readChunks fuel 3 [] rest
      pure (.text chunks, r)
    | 4, some n => do
      if depth + 1 > 32 then throw "cbor: exceeded max nested level 32"
      if n > maxElements then
        throw ("cbor: exceeded max number of elements " ++ toString maxElements ++ " for CBOR array")
      let (xs, r) ← readItems fuel (depth + 1) n [] rest
      pure (.array xs, r)
    | 4, none => do
      if depth + 1 > 32 then throw "cbor: exceeded max nested level 32"
      let (xs, r) ← readItemsUntilBreak fuel (depth + 1) [] rest
      pure (.array xs, r)
    | 5, some n => do
      if depth + 1 > 32 then throw "cbor: exceeded max nested level 32"
      if n > maxElements then
        throw ("cbor: exceeded max number of key-value pairs " ++ toString maxElements ++ " for CBOR map")
      let (es, r) ← readPairs fuel (depth + 1) n [] rest
      pure (.map es, r)
    | 5, none => do
      if depth + 1 > 32 then throw "cbor: exceeded max nested level 32"
      let (es, r) ← readPairsUntilBreak fuel (depth + 1) [] rest
      pure (.map es, r)
    | 6, some t => do
      -- a tag adds a level only when it is itself the content of a tag
      let inner := match rest with
        | b :: _ => b.toNat / 32 = 6
        | [] => false
      if inner && depth + 1 > 32 then throw "cbor: exceeded max nested level 32"
      let (x, r) ← readItem fuel (if inner then depth + 1 else depth) rest
      pure (.tag t x, r)
    | 7, none => throw "cbor: unexpected \"break\" code"
    | 7, some v =>
      if ai = 24 && v < 32 then
        throw ("cbor: invalid simple value " ++ toString v ++ " for type primitives")
      else if ai = 25 then pure (.float (Binary64.ofHalfBits v), rest)
      else if ai = 26 then pure (.float (Binary64.ofSingleBits v), rest)
      else if ai = 27 then pure (.float ⟨v.toUInt64⟩, rest)
      else pure (.simple v, rest)
    | _, _ => throw "unexpected EOF"
/-- Reads the chunks of an indefinite string of major type `major` up to the break. Each
chunk's first octet is checked before its head is read: it must be of the string's own type
and of definite length. -/
def readChunks (fuel major : Nat) (acc : List (List UInt8)) (bs : List UInt8) :
    Except String (List (List UInt8) × List UInt8) :=
  match fuel with
  | 0 => .error "unexpected EOF"
  | fuel + 1 =>
    match bs with
    | [] => .error "unexpected EOF"
    | 0xFF :: rest => .ok (acc.reverse, rest)
    | b :: _ => do
      if b.toNat / 32 ≠ major then
        throw ("cbor: wrong element type " ++ majorName (b.toNat / 32) ++ " for indefinite-length " ++
          majorName major)
      if b.toNat % 32 = 31 then
        throw ("cbor: indefinite-length " ++ majorName major ++ " chunk is not definite-length")
      let (_, _, arg, rest) ← readHead bs
      let n := arg.getD 0
      if rest.length < n then throw "unexpected EOF"
      readChunks fuel major (rest.take n :: acc) (rest.drop n)
/-- Reads `n` items. -/
def readItems (fuel depth n : Nat) (acc : List Item) (bs : List UInt8) :
    Except String (List Item × List UInt8) :=
  match fuel, n with
  | _, 0 => .ok (acc.reverse, bs)
  | 0, _ => .error "unexpected EOF"
  | fuel + 1, n + 1 => do
    let (x, r) ← readItem fuel depth bs
    readItems fuel depth n (x :: acc) r
/-- Reads items up to a break. -/
def readItemsUntilBreak (fuel depth : Nat) (acc : List Item) (bs : List UInt8) :
    Except String (List Item × List UInt8) :=
  match fuel with
  | 0 => .error "unexpected EOF"
  | fuel + 1 =>
    match bs with
    | 0xFF :: rest => .ok (acc.reverse, rest)
    | _ => do
      let (x, r) ← readItem fuel depth bs
      readItemsUntilBreak fuel depth (x :: acc) r
/-- Reads `n` key-value pairs. -/
def readPairs (fuel depth n : Nat) (acc : List (Item × Item)) (bs : List UInt8) :
    Except String (List (Item × Item) × List UInt8) :=
  match fuel, n with
  | _, 0 => .ok (acc.reverse, bs)
  | 0, _ => .error "unexpected EOF"
  | fuel + 1, n + 1 => do
    let (k, r) ← readItem fuel depth bs
    let (v, r) ← readItem fuel depth r
    readPairs fuel depth n ((k, v) :: acc) r
/-- Reads key-value pairs up to a break. -/
def readPairsUntilBreak (fuel depth : Nat) (acc : List (Item × Item)) (bs : List UInt8) :
    Except String (List (Item × Item) × List UInt8) :=
  match fuel with
  | 0 => .error "unexpected EOF"
  | fuel + 1 =>
    match bs with
    | 0xFF :: rest => .ok (acc.reverse, rest)
    | _ => do
      let (k, r) ← readItem fuel depth bs
      let (v, r) ← readItem fuel depth r
      readPairsUntilBreak fuel depth ((k, v) :: acc) r
end

/-- Reads an input that must hold exactly one well-formed item. -/
def parse (bs : List UInt8) : Except String Item :=
  if bs.isEmpty then .error "EOF"
  else do
    let (x, rest) ← readItem (2 * bs.length + 2) 0 bs
    if rest.isEmpty then pure x
    else throw ("cbor: " ++ toString rest.length ++ " bytes of extraneous data starting at index " ++
      toString (bs.length - rest.length))

/-! ## Writing items -/

/-- The shortest head of a major type with an argument. -/
def head (major n : Nat) : List UInt8 :=
  let m := major * 32
  if n < 24 then [(m + n).toUInt8]
  else if n < 256 then [(m + 24).toUInt8, n.toUInt8]
  else if n < 65536 then [(m + 25).toUInt8, (n / 256).toUInt8, (n % 256).toUInt8]
  else if n < 4294967296 then (m + 26).toUInt8 :: (List.range 4).reverse.map (fun i => (n / Nat.pow 256 i % 256).toUInt8)
  else (m + 27).toUInt8 :: (List.range 8).reverse.map (fun i => (n / Nat.pow 256 i % 256).toUInt8)

/-- The head of an integer. -/
def intHead (n : Int) : List UInt8 :=
  if n ≥ 0 then head 0 n.toNat else head 1 (-1 - n).toNat

/-- `k` octets of a number, big-endian. -/
def beOctets (k n : Nat) : List UInt8 :=
  (List.range k).reverse.map (fun i => (n / Nat.pow 256 i % 256).toUInt8)

/-- A whole number of any size: an integer when it fits in 64 bits with its sign, else a
bignum (tag 2, or tag 3 for `-1 - n`) of its shortest big-endian octets. -/
def bigIntOctets (n : Int) : List UInt8 :=
  let bignum := fun (t m : Nat) =>
    let bs := beOctets (Nat.log2 m / 8 + 1) m
    head 6 t ++ head 2 bs.length ++ bs
  if 0 ≤ n && n < Nat.pow 2 64 then head 0 n.toNat
  else if n < 0 && -1 - n < Nat.pow 2 64 then head 1 (-1 - n).toNat
  else if 0 ≤ n then bignum 2 n.toNat
  else bignum 3 (-1 - n).toNat

/-- The shortest float encoding that holds the value exactly. -/
def floatOctets (x : Binary64) : List UInt8 :=
  if x.isNaN then [0xF9, 0x7E, 0x00]
  else if x.isInf then (if x.negative then [0xF9, 0xFC, 0x00] else [0xF9, 0x7C, 0x00])
  else if x.fitsHalf then 0xF9 :: beOctets 2 x.halfBits
  else if x.fitsSingle then 0xFA :: beOctets 4 x.singleBits
  else 0xFB :: beOctets 8 x.bits.toNat

/-- Compares encoded keys: shorter first, then by octets. -/
def keyBefore (a b : List UInt8) : Bool :=
  a.length < b.length || (a.length = b.length && decide (a < b))

/-- Inserts an encoded entry into a list ordered by encoded key. -/
def insertEntry (e : List UInt8 × List UInt8) : List (List UInt8 × List UInt8) → List (List UInt8 × List UInt8)
  | [] => [e]
  | x :: xs => if keyBefore e.1 x.1 then e :: x :: xs else x :: insertEntry e xs

/-- A map of encoded entries, in canonical key order. -/
def mapOctets (entries : List (List UInt8 × List UInt8)) : List UInt8 :=
  let sorted := entries.foldl (fun acc e => insertEntry e acc) []
  head 5 sorted.length ++ sorted.flatMap (fun (k, v) => k ++ v)

/-- The octets of a text string. -/
def textOctets (s : String) : List UInt8 :=
  let bs := Text.Utf8.encode s
  head 3 bs.length ++ bs

mutual
/-- A free-form value in canonical CBOR. -/
def encodeDynamic : Dynamic → List UInt8
  | .null => [0xF6]
  | .bool b => [if b then 0xF5 else 0xF4]
  | .float x => floatOctets x
  | .nat n => head 0 n
  | .neg n => intHead n
  | .text s => textOctets s
  | .octets bs => head 2 bs.length ++ bs
  | .list xs => head 4 xs.length ++ encodeDynamicItems xs
  | .dict es => mapOctets (encodeDynamicEntries es)
  | .anyDict es => mapOctets (encodeDynamicPairs es)
  | .tagged t c => head 6 t ++ encodeDynamic c
  | .bigInt n => bigIntOctets n
  | .time t => if t.isZero then [0xF6] else intHead t.unixSeconds
/-- Items in order. -/
def encodeDynamicItems : List Dynamic → List UInt8
  | [] => []
  | x :: xs => encodeDynamic x ++ encodeDynamicItems xs
/-- Entries with text keys, encoded. -/
def encodeDynamicEntries : List (String × Dynamic) → List (List UInt8 × List UInt8)
  | [] => []
  | (k, v) :: es => (textOctets k, encodeDynamic v) :: encodeDynamicEntries es
/-- Entries with free-form keys, encoded. -/
def encodeDynamicPairs : List (Dynamic × Dynamic) → List (List UInt8 × List UInt8)
  | [] => []
  | (k, v) :: es => (encodeDynamic k, encodeDynamic v) :: encodeDynamicPairs es
end

mutual
/-- A datum of a shape in canonical CBOR. -/
def encodeDatum : Shape → Datum → List UInt8
  | _, .int n => intHead n
  | _, .text s => textOctets s
  | _, .list none => [0xF6]
  | .list e, .list (some xs) => head 4 xs.length ++ encodeDatumItems e xs
  | _, .list (some xs) => head 4 xs.length
  | _, .ref none => [0xF6]
  | .ref t, .ref (some d) => encodeDatum t d
  | s, .ref (some d) => encodeDatum s d
  | .record r, .record fs => mapOctets (encodeDatumFields r.fields fs)
  | _, .record _ => head 5 0
  | _, .dict none => [0xF6]
  | _, .dict (some es) => mapOctets (encodeDynamicEntries es)
  | _, .dynamic d => encodeDynamic d
/-- List items in order. -/
def encodeDatumItems (e : Shape) : List Datum → List UInt8
  | [] => []
  | x :: xs => encodeDatum e x ++ encodeDatumItems e xs
/-- Record fields as encoded entries, empty values left out where the field says so. -/
def encodeDatumFields : List Field → List Datum → List (List UInt8 × List UInt8)
  | f :: fs, d :: ds =>
    if f.omitEmpty && d.isEmpty then encodeDatumFields fs ds
    else (textOctets f.name, encodeDatum f.shape d) :: encodeDatumFields fs ds
  | _, _ => []
end

/-! ## Reading items into data -/

/-- Why an item could not be read into a datum. -/
inductive Fault where
  /-- An item of a kind the target type cannot take; `field` names the outermost record
  field it stood in, `detail` says more. -/
  | mismatch (kind type : String) (field : Option String) (detail : Option String)
  /-- Any other fault, by its text. -/
  | other (msg : String)
  deriving Repr

/-- The text of a fault. -/
def Fault.message : Fault → String
  | .mismatch kind type field detail =>
    "cbor: cannot unmarshal " ++ kind ++
      (match field with
       | some f => " into Go struct field " ++ f
       | none => " into Go value") ++
      " of type " ++ type ++
      (match detail with
       | some d => " (" ++ d ++ ")"
       | none => "")
  | .other msg => msg

/-- The first of two faults. -/
def firstOf (a b : Option Fault) : Option Fault :=
  match a with
  | some _ => a
  | none => b

/-- A fault placed in a record field; mismatches take the field's name. -/
def inField (name : String) : Option Fault → Option Fault
  | some (.mismatch k t _ d) => some (.mismatch k t (some name) d)
  | f => f

/-- The text of a text string, or the fault of one with a chunk that is not UTF-8 on its own. -/
def textOf (chunks : List (List UInt8)) : Except Fault String :=
  match chunks.mapM Text.Utf8.valid? with
  | some ss => .ok (String.join ss)
  | none => .error (.other "cbor: invalid UTF-8 string")

/-- The item inside the self-describing tags at its front. -/
def Item.stripSelfDescribed : Item → Item
  | .tag 55799 x => x.stripSelfDescribed
  | x => x

/-- The fault of a built-in tag followed by content of a kind it does not take. -/
def tagContentFault (t : Nat) (kind : String) : Fault :=
  .other (match t with
    | 0 => "cbor: tag number 0 must be followed by text string, got " ++ kind
    | 1 => "cbor: tag number 1 must be followed by integer or floating-point number, got " ++ kind
    | _ => "cbor: tag number 2 or 3 must be followed by byte string, got " ++ kind)

/-- The fault of the first built-in tag, from the outside in, whose content is of a kind it
does not take: a date-time text (tag 0) takes a text, an epoch time (tag 1) an integer or a
float, a bignum (tags 2 and 3) an octet string. -/
def Item.tagFault? : Item → Option Fault
  | .tag t x =>
    let admits : Bool := match t, x with
      | 0, .text _ => true
      | 1, .uint _ | 1, .nint _ | 1, .float _ => true
      | 2, .bytes _ | 3, .bytes _ => true
      | 0, _ | 1, _ | 2, _ | 3, _ => false
      | _, _ => true
    if admits then x.tagFault? else some (tagContentFault t x.kindName)
  | _ => none

/-- The big-endian value of octets. -/
def octetsValue (bs : List UInt8) : Nat := bs.foldl (fun n b => n * 256 + b.toNat) 0

/-- The time stamp of an epoch time given as a float: its whole seconds, cut toward zero and
taken as the least 64-bit integer when out of range, and its fraction of a second in
nanoseconds, rounded as a float and cut toward zero. NaN and the infinities give the zero
time stamp. -/
def floatStamp (x : Binary64) : Time.Stamp :=
  if !x.isFinite then Time.Stamp.zero
  else
    let (num, den) := x.ratio
    let sign : Int := if x.negative then -1 else 1
    let whole : Int := sign * (num / den : Nat)
    let sec : Int := if whole < -(Nat.pow 2 63 : Int) || whole ≥ (Nat.pow 2 63 : Int) then
      -(Nat.pow 2 63 : Int) else whole
    let (pn, pd) := (Binary64.ofRatio false (num % den * 1000000000) den).ratio
    Time.Stamp.ofUnix sec (sign * (pn / pd : Nat))

/-- The time stamp of the content of an epoch-time tag, in UTC. -/
def epochStamp : Item → Except Fault Time.Stamp
  | .uint n =>
    if n < Nat.pow 2 63 then .ok (Time.Stamp.ofUnix n 0)
    else .error (.mismatch "positive integer" "time.Time" none (some (toString n ++ " overflows Go's int64")))
  | .nint n =>
    if n < Nat.pow 2 63 then .ok (Time.Stamp.ofUnix (-1 - (n : Int)) 0)
    else .error (.mismatch "negative integer" "time.Time" none
      (some ("-" ++ toString (n + 1) ++ " overflows Go's int64")))
  | .float x => .ok (floatStamp x)
  | x => .error (.mismatch x.kindName "time.Time" none none)

/-- The time stamp of the content of a date-time tag. -/
def dateStamp (bs : List (List UInt8)) : Except Fault Time.Stamp := do
  let s ← textOf bs
  match Time.Stamp.parse s with
  | .ok t => pure t
  | .error e => throw (.other ("cbor: cannot set " ++ s ++ " for time.Time: " ++ e))

/-- Whether a free-form value can be a dictionary key; the type named when it cannot. -/
def keyTypeFault? : Dynamic → Option String
  | .list _ => some "[]interface {}"
  | .anyDict _ | .dict _ => some "map[interface {}]interface {}"
  | .bigInt _ => some "big.Int"
  | .tagged _ c => if (keyTypeFault? c).isSome then some "cbor.Tag" else none
  | _ => none

mutual
/-- An item as a free-form value. With `skip`, self-describing tags at its front are dropped
first; built-in tags are checked, date-time and epoch tags become time stamps and bignums
whole numbers, and other tags keep their number around their content. -/
def Item.toDynamic (skip : Bool) : Item → Dynamic × Option Fault
  | .uint n => (.nat n, none)
  | .nint n => (if n < Nat.pow 2 63 then .neg (-1 - (n : Int)) else .bigInt (-1 - (n : Int)), none)
  | .bytes bs => (.octets bs, none)
  | .text bs =>
    match textOf bs with
    | .ok s => (.text s, none)
    | .error e => (.null, some e)
  | .array xs =>
    let (ys, e) := Item.toDynamicItems xs
    (.list ys, e)
  | .map es =>
    let (ps, e) := Item.toDynamicPairs es
    (.anyDict (dedupe ps), e)
  | .tag t x =>
    if skip && t = 55799 then x.toDynamic true
    else
      match (Item.tag t x).tagFault? with
      | some f => (.null, some f)
      | none =>
        match t, x with
        | 0, .text bs =>
          match dateStamp bs with
          | .ok st => (.time st, none)
          | .error f => (.null, some f)
        | 1, _ =>
          match epochStamp x with
          | .ok st => (.time st, none)
          | .error f => (.null, some f)
        | 2, .bytes bs => (.bigInt (octetsValue bs), none)
        | 3, .bytes bs => (.bigInt (-1 - (octetsValue bs : Int)), none)
        | _, _ =>
          let (d, e) := x.toDynamic false
          (.tagged t d, e)
  | .simple 20 => (.bool false, none)
  | .simple 21 => (.bool true, none)
  | .simple 22 | .simple 23 => (.null, none)
  | .simple n => (.nat n, none)
  | .float x => (.float x, none)
/-- Items as free-form values. -/
def Item.toDynamicItems : List Item → List Dynamic × Option Fault
  | [] => ([], none)
  | x :: xs =>
    let (y, e1) := x.toDynamic true
    let (ys, e2) := Item.toDynamicItems xs
    (y :: ys, firstOf e1 e2)
/-- Pairs as free-form key-value pairs; a key that cannot be a dictionary key is a fault and
its entry is dropped. -/
def Item.toDynamicPairs : List (Item × Item) → List (Dynamic × Dynamic) × Option Fault
  | [] => ([], none)
  | (k, v) :: es =>
    let (k', e1) := k.toDynamic true
    let (v', e2) := v.toDynamic true
    let (rest, e3) := Item.toDynamicPairs es
    match e1, keyTypeFault? k' with
    | none, some t => (rest, firstOf (some (.other ("cbor: invalid map key type: " ++ t))) e3)
    | _, _ => ((k', v') :: rest, firstOf e1 (firstOf e2 e3))
/-- Keeps the last value of each key, at the place of its first appearance. -/
def dedupe (ps : List (Dynamic × Dynamic)) : List (Dynamic × Dynamic) :=
  ps.foldl (fun acc (k, v) =>
    if acc.any (fun p => p.1 == k) then acc.map (fun p => if p.1 == k then (k, v) else p)
    else acc ++ [(k, v)]) []
end

/-- Whether an item is null or undefined. -/
def Item.isNil : Item → Bool
  | .simple 22 | .simple 23 => true
  | _ => false

/-- The fault of an item of the wrong kind for a type. -/
def mismatch (x : Item) (type : String) : Option Fault :=
  some (.mismatch x.kindName type none none)

/-- An integer item read as a whole number of a shape, with its range checked. -/
def readInt (s : Shape) (x : Item) : Except Fault Int :=
  let bits : Nat := match s with
    | .int32 => 32
    | _ => 64
  let type := s.typeName
  match x with
  | .uint n =>
    if n < Nat.pow 2 (bits - 1) then .ok n
    else .error (.mismatch "positive integer" type none (some (toString n ++ " overflows " ++ type)))
  | .nint n =>
    if n ≥ Nat.pow 2 63 then
      .error (.mismatch "negative integer" type none (some ("-" ++ toString (n + 1) ++ " overflows Go's int64")))
    else
      let v : Int := -1 - (n : Int)
      if v ≥ -(Nat.pow 2 (bits - 1) : Int) then .ok v
      else .error (.mismatch "negative integer" type none (some (toString v ++ " overflows " ++ type)))
  | _ => .error (.mismatch x.kindName type none none)

/-- A bignum of value `v` read into a datum of shape `s` (no reference): a whole number
within the range of an integer shape. Lists take no bignum; a value past the 64-bit range
(unsigned for tag 2, signed for tag 3) is refused for every other shape with a note that
it overflows, one within it only by integer shapes too narrow for it. -/
def readBignum (s : Shape) (cur : Datum) (positive : Bool) (v : Int) : Datum × Option Fault :=
  let type := s.typeName
  let overflow := some (Fault.mismatch "tag" type none (some (toString v ++ " overflows " ++ type)))
  let inWord := if positive then v < (Nat.pow 2 64 : Int) else -(Nat.pow 2 63 : Int) ≤ v
  match s with
  | .list _ => (cur, some (.mismatch "tag" type none none))
  | .int32 | .int64 =>
    let bits : Nat := if s = .int32 then 32 else 64
    if -(Nat.pow 2 (bits - 1) : Int) ≤ v && v < (Nat.pow 2 (bits - 1) : Int) then (.int v, none)
    else (cur, overflow)
  | _ => if inWord then (cur, some (.mismatch "tag" type none none)) else (cur, overflow)

/-- Reads an item as a dictionary key: a text, read through tags other than the bignums, or
null and undefined standing for `prev`. -/
def Item.readKey (prev : String) : Item → Except Fault String
  | .text bs => textOf bs
  | .simple 22 | .simple 23 => .ok prev
  | .tag t x =>
    match (Item.tag t x).tagFault?, t, x with
    | some f, _, _ => .error f
    | none, 2, .bytes bs =>
      match readBignum .text (.text prev) true (octetsValue bs) with
      | (_, some f) => .error f
      | (_, none) => .ok prev
    | none, 3, .bytes bs =>
      match readBignum .text (.text prev) false (-1 - (octetsValue bs : Int)) with
      | (_, some f) => .error f
      | (_, none) => .ok prev
    | none, _, _ => x.readKey prev
  | .nint n =>
    if n ≥ Nat.pow 2 63 then
      .error (.mismatch "negative integer" "string" none (some ("-" ++ toString (n + 1) ++ " overflows Go's int64")))
    else .error (.mismatch "negative integer" "string" none none)
  | x => .error (.mismatch x.kindName "string" none none)

mutual
/-- Reads an item into a datum of shape `s` over the current datum. -/
def Item.readInto (fuel : Nat) (s : Shape) (cur : Datum) (x : Item) : Datum × Option Fault :=
  match fuel with
  | 0 => (cur, some (.other "cbor: exceeded max nested level 32"))
  | fuel + 1 =>
    match s with
    | .ref t =>
      if x.isNil then (.ref none, none)
      else
        let target := match cur with
          | .ref (some d) => d
          | _ => t.zero
        let (d, e) := Item.readInto fuel t target x
        (.ref (some d), e)
    | .dynamic =>
      let (d, e) := x.toDynamic true
      match d with
      | .null => (cur, e)
      | _ => (.dynamic d, e)
    | _ =>
      match x.stripSelfDescribed.tagFault? with
      | some f => (cur, some f)
      | none =>
      match x.stripSelfDescribed with
      | .tag 2 (.bytes bs) => readBignum s cur true (octetsValue bs)
      | .tag 3 (.bytes bs) => readBignum s cur false (-1 - (octetsValue bs : Int))
      | .tag _ inner => Item.readInto fuel s cur inner
      | x =>
        if x.isNil then
          match s with
          | .list _ | .dict => (s.zero, none)
          | _ => (cur, none)
        else
          match s, x with
          | .int32, _ | .int64, _ =>
            match readInt s x with
            | .ok n => (.int n, none)
            | .error f => (cur, some f)
          | .text, .text bs =>
            match textOf bs with
            | .ok str => (.text str, none)
            | .error f => (cur, some f)
          | .list e, .array xs =>
            let old := match cur with
              | .list (some ys) => if xs.length ≤ ys.length then ys.take xs.length else []
              | _ => []
            let (ys, err) := Item.readItems fuel e old xs
            (.list (some ys), err)
          | .record r, .map es =>
            let fields := match cur with
              | .record fs => fs
              | _ => match (Shape.record r).zero with
                | .record fs => fs
                | _ => []
            let (fs, err) := Item.readFields fuel r (r.fields.map (fun _ => false)) fields es
            (.record fs, err)
          | .record r, .array _ =>
            (cur, some (.mismatch "array" r.qualifiedName none
              (some "cannot decode CBOR array to struct without toarray option")))
          | .dict, .map es =>
            let old := match cur with
              | .dict (some es) => es
              | _ => []
            let (es', err) := Item.readDictEntries fuel "" old es
            (.dict (some es'), err)
          | _, .nint n =>
            if n ≥ Nat.pow 2 63 then
              (cur, some (.mismatch "negative integer" s.typeName none
                (some ("-" ++ toString (n + 1) ++ " overflows Go's int64"))))
            else (cur, mismatch x s.typeName)
          | _, _ => (cur, mismatch x s.typeName)
/-- Reads array items into a list, over the items given (as many as there are items, or none). -/
def Item.readItems (fuel : Nat) (e : Shape) (old : List Datum) : List Item → List Datum × Option Fault
  | [] => ([], none)
  | x :: xs =>
    let (cur, rest) := match old with
      | y :: ys => (y, ys)
      | [] => (e.zero, [])
    let (y, e1) := Item.readInto fuel e cur x
    let (ys, e2) := Item.readItems fuel e rest xs
    (y :: ys, firstOf e1 e2)
/-- Reads map entries into record fields; `seen` marks fields already filled. -/
def Item.readFields (fuel : Nat) (r : Record) (seen : List Bool) (fields : List Datum) :
    List (Item × Item) → List Datum × Option Fault
  | [] => (fields, none)
  | (k, v) :: es =>
    match k with
    | .text kb =>
      match textOf kb with
      | .error f =>
        let (fs, e2) := Item.readFields fuel r seen fields es
        (fs, firstOf (some f) e2)
      | .ok key =>
        let exact := r.fields.findIdx? (·.name = key)
        let folded := r.fields.findIdx? (fun f =>
          (Text.Utf8.encode f.name).length = kb.flatten.length && Text.CaseMap.equalFold f.name key)
        let pick : Option Nat := match exact with
          | some i => some i
          | none => folded
        match pick with
        | none => Item.readFields fuel r seen fields es
        | some i =>
          if seen.getD i false then Item.readFields fuel r seen fields es
          else
            match r.fields[i]?, fields[i]? with
            | some f, some cur =>
              let (d, e1) := Item.readInto fuel f.shape cur v
              let e1 := inField (r.qualifiedName ++ "." ++ f.name) e1
              let (fs, e2) := Item.readFields fuel r (seen.set i true) (fields.set i d) es
              (fs, firstOf e1 e2)
            | _, _ => Item.readFields fuel r seen fields es
    | .uint _ => Item.readFields fuel r seen fields es
    | .nint n =>
      let (fs, e2) := Item.readFields fuel r seen fields es
      if n ≥ Nat.pow 2 63 then
        (fs, firstOf (some (.mismatch "negative integer" "int64" none
          (some ("-1-" ++ toString n ++ " overflows Go's int64")))) e2)
      else (fs, e2)
    | _ =>
      let e1 := some (Fault.mismatch k.kindName "string" none
        (some ("map key is of type " ++ k.kindName ++ " and cannot be used to match struct field name")))
      let (fs, e2) := Item.readFields fuel r seen fields es
      (fs, firstOf e1 e2)
/-- Reads map entries into a dictionary with text keys. A key is read as a text through its
tags; a null key stands for the key read before it (the empty text at first). -/
def Item.readDictEntries (fuel : Nat) (prev : String) (acc : List (String × Dynamic)) :
    List (Item × Item) → List (String × Dynamic) × Option Fault
  | [] => (acc, none)
  | (k, v) :: es =>
    match k.readKey prev with
    | .error f =>
      let (rest, e2) := Item.readDictEntries fuel prev acc es
      (rest, firstOf (some f) e2)
    | .ok key =>
      let (d, e1) := v.toDynamic true
      let (rest, e2) := Item.readDictEntries fuel key (insertSorted key d acc) es
      (rest, firstOf e1 e2)
end

end ConfigTables.Cbor
