import ConfigTables.Data.Shape
import ConfigTables.Text.CaseMap
/-!
# Layered settings

A program's settings are looked up by key in four layers, the first that holds a value
winning: flags given on the command line, environment variables, a settings document, and
defaults. A key is a path of words joined by dots (`log.level`); the document's keys are
lower-cased at every depth when it is read, so keys compare without case.

A value in a higher layer hides what lies below its path: a document that sets `log` to a
plain value leaves no `log.level`, not even the default one. A document key that itself holds
dots (`"log.level"`) is found as well as the nested form, and a number in a path picks an
item of a list.

The settings handed to a decoder are one tree built from every key any layer knows, each set
to the value the lookup finds; keys that find nothing are left out. An empty dictionary in the
document names no key, so it is as if it were not there.
-/

namespace ConfigTables.Config

mutual
/-- A value with the keys of its dictionaries lower-cased, at every depth, lists included. -/
def lowerKeys : Dynamic → Dynamic
  | .dict es => .dict (lowerEntries es)
  | .list xs => .list (lowerItems xs)
  | d => d
/-- Dictionary entries with lower-cased keys, kept in key order; of two keys that meet, the
earlier in key order stays. -/
def lowerEntries : List (String × Dynamic) → List (String × Dynamic)
  | [] => []
  | (k, v) :: rest => insertSorted (Text.CaseMap.lower k) (lowerKeys v) (lowerEntries rest)
/-- List items with lower-cased keys. -/
def lowerItems : List Dynamic → List Dynamic
  | [] => []
  | x :: xs => lowerKeys x :: lowerItems xs
end

/-- The value of a key among dictionary entries; a null value counts as none. -/
def entry? (es : List (String × Dynamic)) (k : String) : Option Dynamic :=
  match es.lookup k with
  | some .null => none
  | v => v

/-- The words of a key. -/
def pathOf (key : String) : List String := key.splitOn "."

/-- The value at a path of a tree, one word a level. -/
def searchTree : List (String × Dynamic) → List String → Option Dynamic
  | es, [] => some (.dict es)
  | es, [k] => entry? es k
  | es, k :: rest =>
    match entry? es k with
    | some (.dict es') => searchTree es' rest
    | _ => none

/-- The value at a path, trying the longest run of words as one key first; `fuel` bounds
the depth. -/
def searchPrefixes : Nat → Dynamic → List String → Option Dynamic
  | _, d, [] => some d
  | 0, _, _ => none
  | fuel + 1, d, path =>
    let tryAt (i : Nat) : Option Dynamic :=
      let key := Text.CaseMap.lower (".".intercalate (path.take i))
      let next : Option Dynamic :=
        match d with
        | .dict es => entry? es key
        | .list xs =>
          match key.toNat? with
          | some n => match xs[n]? with
            | some .null => none
            | v => v
          | none => none
        | _ => none
      match next with
      | none => none
      | some v =>
        if i = path.length then some v
        else match v with
          | .dict _ | .list _ => searchPrefixes fuel v (path.drop i)
          | _ => none
    ((List.range path.length).reverse.map (· + 1)).findSome? tryAt

/-- Whether a plain value in a tree lies on a proper prefix of a path. -/
def shadowedInTree (es : List (String × Dynamic)) (path : List String) : Bool :=
  let rec go : List String → List String → Bool
    | _, [] => false
    | _, [_] => false
    | seen, k :: rest =>
      let pre := seen ++ [k]
      match searchTree es pre with
      | none => false
      | some (.dict _) => go pre rest
      | some _ => true
  go [] path

/-- Whether a proper prefix of a path is one of the keys. -/
def shadowedInKeys (keys : List String) (path : List String) : Bool :=
  (List.range (path.length - 1)).any fun i => keys.contains (".".intercalate (path.take (i + 1)))

/-- The layers settings are looked up in. -/
structure Layers where
  /-- Flags that were given, by key, with their text. -/
  flags : List (String × String)
  /-- The keys bound to flags, given or not. -/
  flagKeys : List String
  /-- The prefix of environment variables read for every key, when they are read. -/
  envPrefix : Option String
  /-- The environment. -/
  env : List (String × String)
  /-- The settings document, keys lower-cased. -/
  document : List (String × Dynamic)
  /-- The defaults, as a tree. -/
  defaults : List (String × Dynamic)
  deriving Inhabited

namespace Layers

/-- The environment variable read for a key: the prefix, an underscore and the key, all in
upper case; an empty variable counts as unset. -/
def envValue (l : Layers) (key : String) : Option String :=
  match l.envPrefix with
  | none => none
  | some p =>
    match l.env.lookup (String.map Char.toUpper (p ++ "_" ++ key)) with
    | some "" => none
    | v => v

/-- Whether an environment variable is set for a proper prefix of a path. -/
def envShadows (l : Layers) (path : List String) : Bool :=
  (List.range (path.length - 1)).any fun i => (l.envValue (".".intercalate (path.take (i + 1)))).isSome

/-- The value of a key: a given flag, then the environment, then the document, then the
defaults, each layer hiding the ones below along a path it sets to a plain value. -/
def get (l : Layers) (key : String) : Option Dynamic :=
  let path := pathOf key
  let nested := path.length > 1
  match l.flags.lookup key with
  | some v => some (.text v)
  | none =>
    if nested && shadowedInKeys l.flagKeys path then none
    else match l.envValue key with
    | some v => some (.text v)
    | none =>
      if nested && l.envShadows path then none
      else match searchPrefixes (path.length + 1) (.dict l.document) path with
      | some v => some v
      | none =>
        if nested && shadowedInTree l.document path then none
        else searchTree l.defaults path

/-- Adds a key to a sorted set of keys. -/
def addKey (k : String) (ks : List String) : List String :=
  (insertSorted k () (ks.map (·, ()))).map (·.1)

mutual
/-- Adds the leaf keys of a tree under a prefix, skipping any part below a key already
there. -/
def flattenInto (ks : List String) (pre : String) : List (String × Dynamic) → List String
  | [] => ks
  | (k, v) :: rest =>
    let full := if pre = "" then k else pre ++ "." ++ k
    flattenInto (flattenOne ks full v) pre rest
/-- Adds the leaf keys of one value under its key. -/
def flattenOne (ks : List String) (full : String) : Dynamic → List String
  | .dict es => if ks.contains full then ks else flattenInto ks full es
  | _ => addKey (Text.CaseMap.lower full) ks
end

/-- Every key some layer knows: the flag keys not below another known key, then the leaf
keys of the document and of the defaults, in key order. -/
def keys (l : Layers) : List String :=
  let ks := l.flagKeys.foldl (fun ks k =>
    if shadowedInKeys ks (pathOf k) then ks else addKey (Text.CaseMap.lower k) ks) []
  let ks := flattenInto ks "" l.document
  flattenInto ks "" l.defaults

/-- Sets a value at a path of a tree, making dictionaries along the way and replacing plain
values that stand in the way. -/
def setPath (es : List (String × Dynamic)) : List String → Dynamic → List (String × Dynamic)
  | [], _ => es
  | [k], v => insertSorted k v es
  | k :: rest, v =>
    let inner := match es.lookup k with
      | some (.dict es') => es'
      | _ => []
    insertSorted k (.dict (setPath inner rest v)) es

/-- The settings tree: every known key with the value its lookup finds. -/
def settings (l : Layers) : List (String × Dynamic) :=
  l.keys.foldl (fun acc k =>
    match l.get k with
    | some v => setPath acc (pathOf k) v
    | none => acc) []

end Layers

end ConfigTables.Config
