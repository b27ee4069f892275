import ConfigTables.Yaml.Comments
import ConfigTables.Data.Shape
import ConfigTables.Number.Literal
import ConfigTables.Text.Chars
/-!
# YAML documents

`readDocument` reads the first document of a text into a node tree for editing, with its
comments placed; an alias must refer to an anchor that comes before it.

`decodeMapping` reads the first document as a dictionary of free-form values, the way
settings files are read: plain scalars become null, truth values, whole or real numbers
when they are written as such (`~`, `null`, `true`, `False`, `0x1F`, `1_000`, `1.5e3`,
`.inf`, ...), and text otherwise; quoted and block scalars are always text; a sequence
becomes a list and a mapping a dictionary whose keys are the text of the key's value;
aliases stand for the node they refer to. A key written twice in one mapping is a fault,
and so is a document that is not a mapping.
-/

namespace ConfigTables.Yaml

mutual
/-- The first alias, in reading order, that refers to no anchor before it; `seen` are the
anchors met so far. Gives the anchors met and the unknown name, if any. -/
def unknownAlias (seen : List String) : Node → List String × Option String
  | ⟨kind, _, _, _, value, anchor, content, _, _, _, _, _⟩ =>
    if kind = .alias then
      (seen, if seen.contains value then none else some value)
    else
      let seen := if anchor = "" then seen else anchor :: seen
      unknownAliasIn seen content
/-- The first unknown alias among nodes. -/
def unknownAliasIn (seen : List String) : List Node → List String × Option String
  | [] => (seen, none)
  | n :: ns =>
    match unknownAlias seen n with
    | (seen, some a) => (seen, some a)
    | (seen, none) => unknownAliasIn seen ns
end

/-- Whether a key is a merge key: a plain `<<` with no tag of its own. -/
def isMerge (k : Node) : Bool :=
  k.kind = .scalar && k.style = .plain && k.value = "<<" && (k.tag = "" || k.tag = "!!merge")

mutual
/-- A tree with its tags in written form (see `resolveTag`), under the `%TAG` handles
`dirs`; a plain `<<` with no tag is a merge key and carries the tag `!!merge`. -/
def resolveTags (dirs : List (String × String)) : Node → Except Problem Node
  | ⟨kind, flow, style, tag, value, anchor, content, head, line, foot, row, col⟩ =>
    match resolveTag dirs tag with
    | .error m => .error ⟨false, row - 1, row - 1, m⟩
    | .ok t =>
      let t := if kind = .scalar && style = .plain && t = "" && value = "<<" then "!!merge" else t
      match resolveTagsIn dirs content with
      | .error e => .error e
      | .ok content => .ok ⟨kind, flow, style, t, value, anchor, content, head, line, foot, row, col⟩
/-- The trees of a list with their tags in written form. -/
def resolveTagsIn (dirs : List (String × String)) : List Node → Except Problem (List Node)
  | [] => .ok []
  | n :: ns =>
    match resolveTags dirs n, resolveTagsIn dirs ns with
    | .error e, _ => .error e
    | .ok _, .error e => .error e
    | .ok n, .ok ns => .ok (n :: ns)
end

/-- Reads the first document of a text, with its comments; none when the text holds no
document. -/
def readDocument (text : String) : Except String (Option Node) :=
  let s := charsOf text
  match readFirst s with
  | .error p => .error p.text
  | .ok (none, _) => .ok none
  | .ok (some (content, c), dirs) =>
    match resolveTags dirs content with
    | .error p => .error p.text
    | .ok content =>
      let c := skipGap s c
      let last := if at? s c = none then c.row else c.row - 1
      let (content, head, foot) := placeComments s c.notes.reverse last content
      match (unknownAlias [] content).2 with
      | some a => .error ("yaml: unknown anchor '" ++ a ++ "' referenced")
      | none => .ok (some { Node.document content with head := head, foot := foot })

/-! ## Values -/

/-- Whether text has the form of a real number: sign, digits with an optional point, and an
optional exponent. -/
def realForm (t : String) : Bool :=
  let cs := t.toList
  let cs := match cs with
    | '+' :: r | '-' :: r => r
    | r => r
  let intDs := cs.takeWhile Char.isDigit
  let cs := cs.drop intDs.length
  let (fracOk, cs) := match cs with
    | '.' :: r =>
      let ds := r.takeWhile Char.isDigit
      (!intDs.isEmpty || !ds.isEmpty, r.drop ds.length)
    | r => (!intDs.isEmpty, r)
  let expOk := match cs with
    | [] => true
    | e :: r =>
      (e = 'e' || e = 'E') &&
        (let r := match r with
          | '+' :: q | '-' :: q => q
          | q => q
         !r.isEmpty && r.all Char.isDigit)
  fracOk && expOk

/-- The value of a plain scalar. -/
def resolvePlain (t : String) : Dynamic :=
  match t with
  | "" | "~" | "null" | "Null" | "NULL" => .null
  | "true" | "True" | "TRUE" => .bool true
  | "false" | "False" | "FALSE" => .bool false
  | ".nan" | ".NaN" | ".NAN" => .float Binary64.nan
  | ".inf" | ".Inf" | ".INF" | "+.inf" | "+.Inf" | "+.INF" => .float (Binary64.infinity false)
  | "-.inf" | "-.Inf" | "-.INF" => .float (Binary64.infinity true)
  | _ =>
    match t.toList with
    | c :: _ =>
      if c = '.' then
        match Literal.parseReal t with
        | .ok x => if t.toLower.startsWith ".in" || t.toLower.startsWith ".na" then .text t else .float x
        | .error _ => .text t
      else if c.isDigit || c = '+' || c = '-' then
        let plain := String.ofList (t.toList.filter (· ≠ '_'))
        match Literal.parseWhole plain with
        | .ok n => if n < 0 then .neg n else .nat n.toNat
        | .error _ =>
          match Literal.parseUnsigned plain.toList with
          | .ok n => .nat n
          | .error _ =>
            if realForm plain then
              match Literal.parseReal plain with
              | .ok x => .float x
              | .error _ => .text t
            else .text t
      else .text t
    | [] => .null

/-- The value of a scalar node: quoted and block scalars and those tagged as text are text. -/
def scalarValue (n : Node) : Dynamic :=
  if n.style ≠ .plain || n.tag = "!!str" then .text n.value else resolvePlain n.value

/-- The text a key stands for in a dictionary. -/
def keyText : Dynamic → String
  | .text s => s
  | .null => "<nil>"
  | .bool b => if b then "true" else "false"
  | .nat n => toString n
  | .neg n => toString n
  | .float x => x.formatG
  | _ => ""

mutual
/-- The anchored nodes of a tree, by name, in reading order. -/
def anchorsIn : Node → List (String × Node)
  | n@⟨_, _, _, _, _, anchor, content, _, _, _, _, _⟩ =>
    (if anchor = "" then [] else [(anchor, n)]) ++ anchorsInAll content
/-- The anchored nodes of a list of trees. -/
def anchorsInAll : List Node → List (String × Node)
  | [] => []
  | n :: ns => anchorsIn n ++ anchorsInAll ns
end

/-- The node an alias refers to: the last anchor of its name. -/
def target (anchors : List (String × Node)) (n : Node) : Option Node :=
  anchors.reverse.lookup n.value

/-- The mappings a merge key's value brings in, the one read first first: a mapping, an
alias of one, or a sequence of those, read from its last item back. -/
def mergeSources (v : Node) : List Node :=
  match v.kind with
  | .sequence => v.content.reverse
  | _ => [v]

/-- The entries of dictionaries brought into one, the first one of a key kept. -/
def mergeInto (acc : List (String × Dynamic)) (d : Dynamic) : List (String × Dynamic) :=
  match d with
  | .dict es => es.foldl (fun acc (k, x) => if (acc.lookup k).isSome then acc else insertSorted k x acc) acc
  | _ => acc

/-- The value of a node, aliases replaced by their nodes' values; `fuel` bounds how deep
aliases are followed. A mapping's own keys come first; a merge key's mappings fill in the
keys it lacks. -/
def valueOf (anchors : List (String × Node)) : Nat → Node → Dynamic
  | 0, _ => .null
  | fuel + 1, n =>
    match n.kind with
    | .scalar => scalarValue n
    | .alias =>
      match target anchors n with
      | some t => valueOf anchors fuel t
      | none => .null
    | .sequence => .list (n.content.attach.map fun ⟨x, _⟩ => valueOf anchors fuel x)
    | .mapping =>
      let pairs := Node.pairs n.content
      let own := (pairs.filter fun (k, _) => !isMerge k).foldl (fun acc (k, v) =>
        insertSorted (keyText (valueOf anchors fuel k)) (valueOf anchors fuel v) acc) []
      match ((pairs.filter fun (k, _) => isMerge k).map (·.2)).getLast? with
      | none => .dict own
      | some m => .dict ((mergeSources m).foldl (fun acc x =>
          mergeInto acc (valueOf anchors fuel x)) own)
    | .document =>
      match n.content with
      | c :: _ => valueOf anchors fuel c
      | [] => .null

/-- Whether a node is a mapping or an alias of one. -/
def isMappingRef (anchors : List (String × Node)) (n : Node) : Bool :=
  n.kind = .mapping || n.kind = .alias && ((target anchors n).map fun t => decide (t.kind = .mapping)).getD true

mutual
/-- Whether a merge key of a tree has a value other than a mapping, an alias of one or a
sequence of those. -/
def badMerge (anchors : List (String × Node)) : Node → Bool
  | ⟨kind, _, _, _, _, _, content, _, _, _, _, _⟩ =>
    let here := kind = .mapping && (Node.pairs content).any fun (k, v) =>
      isMerge k && !(isMappingRef anchors v ||
        v.kind = .sequence && v.content.all (isMappingRef anchors))
    here || badMergeIn anchors content
/-- Whether a merge key of a list of trees has a value that cannot be merged. -/
def badMergeIn (anchors : List (String × Node)) : List Node → Bool
  | [] => false
  | n :: ns => badMerge anchors n || badMergeIn anchors ns
end

/-- The tag word of a node's kind, as faults name it. -/
def kindTag (n : Node) : String :=
  match n.kind with
  | .sequence => "!!seq"
  | .mapping => "!!map"
  | .scalar =>
    match scalarValue n with
    | .null => "!!null"
    | .bool _ => "!!bool"
    | .float _ => "!!float"
    | .nat _ | .neg _ => "!!int"
    | _ => "!!str"
  | _ => "!!str"

mutual
/-- The first key written twice in one mapping of a tree: its line, text and first line. -/
def repeatedKey : Node → Option (Nat × String × Nat)
  | ⟨kind, _, _, _, _, _, content, _, _, _, _, _⟩ =>
    let here : Option (Nat × String × Nat) :=
      if kind = .mapping then
        let keys := (Node.pairs content).map (·.1)
        keys.zipIdx.findSome? fun (k, i) =>
          (keys.take i).find? (fun k0 => k0.kind = k.kind && k0.value = k.value) |>.map fun k0 =>
            (k.row, k.value, k0.row)
      else none
    match here with
    | some r => some r
    | none => repeatedKeyIn content
/-- The first key written twice in the mappings of a list of trees. -/
def repeatedKeyIn : List Node → Option (Nat × String × Nat)
  | [] => none
  | n :: ns =>
    match repeatedKey n with
    | some r => some r
    | none => repeatedKeyIn ns
end

/-- Reads the first document of a text as a dictionary. -/
def decodeMapping (text : String) : Except String (List (String × Dynamic)) :=
  match readDocument text with
  | .error e => .error e
  | .ok none => .ok []
  | .ok (some doc) =>
    match doc.content with
    | [] => .ok []
    | root :: _ =>
      let anchors := anchorsIn root
      if badMerge anchors root then
        .error "yaml: map merge requires map or sequence of maps as the value"
      else match repeatedKey root with
      | some (row, key, first) =>
        .error ("yaml: unmarshal errors:\n  line " ++ toString row ++ ": mapping key " ++
          Text.Quoted.quote key ++ " already defined at line " ++ toString first)
      | none =>
        match valueOf anchors 64 root with
        | .dict es => .ok es
        | .null => .ok []
        | _ =>
          .error ("yaml: unmarshal errors:\n  line " ++ toString root.row ++ ": cannot unmarshal " ++
            kindTag root ++ " into map[string]interface {}")

end ConfigTables.Yaml
