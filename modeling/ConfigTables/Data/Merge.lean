import ConfigTables.Data.Shape
/-!
# Merging one datum over another

A patch file is read into a fresh datum of the table's shape and then merged over the datum
read so far. The merge is an override merge that joins lists:

* a number or text of the patch replaces the one there unless it is zero or empty;
* a list of the patch is appended to the list there (absent stays absent only when both
  are absent or the patch's list is empty and the one there absent);
* a reference of the patch fills an absent one, and otherwise its target is merged over
  the target there; an absent reference of the patch changes nothing;
* a dictionary of the patch is merged key by key: a null replaces, nested dictionaries merge,
  lists are appended, and every other value replaces what was there, zero or not.

Appending a list to a value of another kind is refused, naming both types.
-/

namespace ConfigTables

/-- Whether a free-form value counts as empty: null, false, zero, an empty text, list or
dictionary. -/
def Dynamic.isEmpty : Dynamic → Bool
  | .null => true
  | .bool b => !b
  | .float x => x.isZero
  | .nat n => n = 0
  | .neg n => n = 0
  | .text s => s.isEmpty
  | .octets bs => bs.isEmpty
  | .list xs => xs.isEmpty
  | .dict es => es.isEmpty
  | .anyDict es => es.isEmpty
  | .tagged _ _ | .bigInt _ | .time _ => false

/-- The type name of a free-form value, as diagnostics write it. -/
def Dynamic.typeName : Dynamic → String
  | .null => "<nil>"
  | .bool _ => "bool"
  | .float _ => "float64"
  | .nat _ => "uint64"
  | .neg _ => "int64"
  | .text _ => "string"
  | .octets _ => "[]uint8"
  | .list _ => "[]interface {}"
  | .dict _ => "map[string]interface {}"
  | .anyDict _ => "map[interface {}]interface {}"
  | .tagged _ _ => "cbor.Tag"
  | .bigInt _ => "big.Int"
  | .time _ => "time.Time"

/-- The value of a key in a dictionary kept in key order. -/
def lookupKey {α : Type} (k : String) : List (String × α) → Option α
  | [] => none
  | (k', v) :: rest => if k = k' then some v else lookupKey k rest

mutual
/-- Merges dictionary entries of a patch over entries there, key by key. -/
def Dynamic.mergeEntries (dst : List (String × Dynamic)) :
    List (String × Dynamic) → Except String (List (String × Dynamic))
  | [] => pure dst
  | (k, v) :: rest => do
    let merged ← Dynamic.mergeAt (lookupKey k dst) v
    Dynamic.mergeEntries (insertSorted k merged dst) rest
/-- The value a key takes when the patch gives `v` and `old` was there. -/
def Dynamic.mergeAt (old : Option Dynamic) : Dynamic → Except String Dynamic
  | .dict src =>
    match old with
    | some (.dict d) => return .dict (← Dynamic.mergeEntries d src)
    | _ => pure (.dict src)
  | .list src =>
    match old with
    | none | some .null => pure (.list src)
    | some (.list d) => pure (.list (d ++ src))
    | some other =>
      throw ("cannot append two slices with different type ([]interface {}, " ++ other.typeName ++ ")")
  | v => pure v
end

/-- Merges a patch's dictionary over the one there; an absent dictionary there starts empty
when the patch has one. -/
def Dynamic.mergeDict : Option (List (String × Dynamic)) → Option (List (String × Dynamic)) →
    Except String (Option (List (String × Dynamic)))
  | dst, none => pure dst
  | none, some src => return some (← Dynamic.mergeEntries [] src)
  | some dst, some src => return some (← Dynamic.mergeEntries dst src)

/-- Whether a datum counts as empty for merging. -/
def Datum.isBlank : Datum → Bool
  | .int n => n = 0
  | .text s => s.isEmpty
  | .list none => true
  | .list (some xs) => xs.isEmpty
  | .ref none => true
  | .dict none => true
  | .dict (some es) => es.isEmpty
  | .dynamic d => d.isEmpty
  | .ref (some _) | .record _ => false

/-- Appends a patch's list to the list there; the result is absent only when the list there is
absent and the patch adds no items. -/
def appendList : Option (List Datum) → Option (List Datum) → Option (List Datum)
  | none, none => none
  | none, some [] => none
  | none, some xs => some xs
  | some ys, none => some ys
  | some ys, some xs => some (ys ++ xs)

mutual
/-- Merges a patch datum `src` over the datum `dst` there. -/
def Datum.mergeOver : Datum → Datum → Except String Datum
  | .list d, .list s => pure (.list (appendList d s))
  | dst, .ref none => pure dst
  | .ref none, .ref (some t) => pure (.ref (some t))
  | .ref (some d), .ref (some t) => return .ref (some (← Datum.mergeOver d t))
  | .record ds, .record ss => return .record (← Datum.mergeFields ds ss)
  | .dict d, .dict s => return .dict (← Dynamic.mergeDict d s)
  | dst, .dynamic .null => pure dst
  | _, .dynamic s => pure (.dynamic s)
  | dst, src => pure (if src.isBlank then dst else src)
/-- Merges record fields pairwise. -/
def Datum.mergeFields : List Datum → List Datum → Except String (List Datum)
  | d :: ds, s :: ss => return (← Datum.mergeOver d s) :: (← Datum.mergeFields ds ss)
  | ds, _ => pure ds
end

end ConfigTables
