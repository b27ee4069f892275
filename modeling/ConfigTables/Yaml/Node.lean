/-!
# YAML node trees

A YAML document read for editing is kept as a tree of nodes that remembers how it was
written: the style of every scalar and collection, anchors, explicit tags, and the comments
around each node, so that writing the tree back reproduces the parts nobody touched.

A mapping keeps its keys and values as one list, key before value. Comments hang on nodes:
a head comment stands on the lines before a node, a line comment after it on its line, and
a foot comment on the lines after it. A document keeps the comments above its content and
those at its end.
-/

namespace ConfigTables.Yaml

/-- What a node is. -/
inductive Kind where
  | document
  | sequence
  | mapping
  | scalar
  | alias
  deriving Repr, DecidableEq, Inhabited

/-- How a scalar is written. -/
inductive ScalarStyle where
  | plain
  | singleQuoted
  | doubleQuoted
  | literal
  | folded
  deriving Repr, DecidableEq, Inhabited

/-- A node of a YAML tree. -/
structure Node where
  kind : Kind
  /-- Whether a collection is written in flow style (`[a, b]`, `{a: b}`). -/
  flow : Bool
  style : ScalarStyle
  /-- The tag in the form it is written in (`!!str`, `!local`, `!<tag:x.org,2000:y>`), or
  empty when the tag is implied. -/
  tag : String
  /-- The text of a scalar, or the anchor an alias refers to. -/
  value : String
  anchor : String
  /-- Items of a sequence; keys and values of a mapping, alternating; the content of a
  document. -/
  content : List Node
  head : String
  line : String
  foot : String
  /-- The line (from 1) and column (from 0) the node starts at. -/
  row : Nat
  col : Nat
  deriving Repr, Inhabited

namespace Node

/-- A plain scalar with no position. -/
def scalar (v : String) : Node := ⟨.scalar, false, .plain, "", v, "", [], "", "", "", 0, 0⟩

/-- An empty block mapping with no position. -/
def emptyMapping : Node := ⟨.mapping, false, .plain, "", "", "", [], "", "", "", 0, 0⟩

/-- A document holding one node. -/
def document (n : Node) : Node := ⟨.document, false, .plain, "", "", "", [n], "", "", "", 0, 0⟩

/-- The keys and values of a mapping as pairs; an odd last node is dropped. -/
def pairs : List Node → List (Node × Node)
  | k :: v :: rest => (k, v) :: pairs rest
  | _ => []

/-- Pairs back into alternating keys and values. -/
def unpair : List (Node × Node) → List Node
  | [] => []
  | (k, v) :: rest => k :: v :: unpair rest

/-- Whether a node is a collection with nothing in it. -/
def isEmptyCollection (n : Node) : Bool :=
  (n.kind = .mapping || n.kind = .sequence) && n.content.isEmpty

/-- Replaces the value of the first pair whose key is `key`. -/
def replaceValue (parent : Node) (key : String) (child : Node) : Node :=
  let rec go : List Node → List Node
    | k :: v :: rest => if k.value = key then k :: child :: rest else k :: v :: go rest
    | rest => rest
  { parent with content := go parent.content }

/-- Sets a key of a mapping to a plain scalar, replacing the value of the first pair with
that key or appending a pair. -/
def setScalar (parent : Node) (key value : String) : Node :=
  if (pairs parent.content).any (fun (k, _) => k.value = key) then
    replaceValue parent key (scalar value)
  else { parent with content := parent.content ++ [scalar key, scalar value] }

/-- The mapping under a key of a mapping, and the mapping with it in place: the value of
the first pair with the key if it is a mapping, else a new empty mapping put in place of
that value, or appended under the key when no pair has it. -/
def mappingChild (parent : Node) (key : String) : Node × Node :=
  match (pairs parent.content).find? (fun (k, _) => k.value = key) with
  | some (_, v) =>
    if v.kind = .mapping then (v, parent) else (emptyMapping, replaceValue parent key emptyMapping)
  | none => (emptyMapping, { parent with content := parent.content ++ [scalar key, emptyMapping] })

/-- Removes the first pair whose key is `key`. -/
def removeKey (parent : Node) (key : String) : Node :=
  let rec go : List Node → List Node
    | k :: v :: rest => if k.value = key then rest else k :: v :: go rest
    | rest => rest
  { parent with content := go parent.content }

end Node

end ConfigTables.Yaml
