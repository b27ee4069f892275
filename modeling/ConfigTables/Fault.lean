/-!
# Faults

Why an operation failed, as a tree of causes. A node is a plain message, one of the fixed
conditions the library names (`Sentinel`), a message written around an inner cause, a
table-load failure with its kind, table and file, a failed post-load hook, a recovered panic,
several causes joined, or the aggregate of one load over many tables.

Each named kind of table-load failure has a condition of its own, which every failure of that
kind matches too (`hasLoadKind`), so a cause can match a kind without being a table-load
failure.

The text of a fault is fixed by its node (`message`). Questions about the cause are answered
by walking the tree depth first, a node before its causes and causes in order (`nodes`): the
first table-load failure, whether a condition holds anywhere, and so on.
-/

namespace ConfigTables

/-- Why a table file could not be loaded. The four named kinds have codes 1 to 4; any other
code is kept as it is and reads as `unknown`. -/
inductive LoadKind where
  | notFound
  | parse
  | illegalParam
  | unknownFormat
  | other (code : Int)
  deriving Repr, DecidableEq, Inhabited

namespace LoadKind

/-- The kind stored as a number. -/
def ofCode : Int → LoadKind
  | 1 => notFound
  | 2 => parse
  | 3 => illegalParam
  | 4 => unknownFormat
  | c => other c

/-- The number a kind is stored as. -/
def code : LoadKind → Int
  | notFound => 1
  | parse => 2
  | illegalParam => 3
  | unknownFormat => 4
  | other c => c

/-- The word naming a kind. -/
def name : LoadKind → String
  | notFound => "not_found"
  | parse => "parse_error"
  | illegalParam => "illegal_param"
  | unknownFormat => "unknown_format"
  | other _ => "unknown"

/-- The text of the condition a kind matches on its own. -/
def sentinelText : LoadKind → String
  | notFound => "not found"
  | parse => "parse error"
  | illegalParam => "illegal param"
  | unknownFormat => "unknown format"
  | other _ => "unknown"

/-- Whether the kind is one of the four named ones. -/
def isNamed : LoadKind → Bool
  | other _ => false
  | _ => true

end LoadKind

/-- Conditions the library reports by identity rather than by text alone. -/
inductive Sentinel where
  | invalidRegistration
  | notLoaded
  | mutableCheckDisabled
  | rowNotFound
  | nullRow
  | canceled
  | deadlineExceeded
  | sessionNotFound
  /-- The condition every table-load failure of a named kind also matches. -/
  | loadKind (k : LoadKind)
  deriving Repr, DecidableEq, Inhabited

namespace Sentinel

/-- The text of a condition on its own. -/
def text : Sentinel → String
  | invalidRegistration => "invalid table registration"
  | notLoaded => "hub has not loaded"
  | mutableCheckDisabled => "mutable check not enabled"
  | rowNotFound => "not found"
  | nullRow => "null row"
  | canceled => "context canceled"
  | deadlineExceeded => "context deadline exceeded"
  | sessionNotFound => "journal: session not found"
  | loadKind k => k.sentinelText

end Sentinel

/-- The post-load hook that failed. -/
inductive HookStage where
  | afterLoad
  | afterLoadAll
  deriving Repr, DecidableEq, Inhabited

/-- The word naming a hook stage. -/
def HookStage.name : HookStage → String
  | .afterLoad => "after_load"
  | .afterLoadAll => "after_load_all"

/-- A cause of failure. -/
inductive Fault where
  /-- A failure known only by its message. -/
  | text (msg : String)
  /-- A named condition. -/
  | sentinel (s : Sentinel)
  /-- A message written around an inner cause: `before`, the cause's text, `after`. -/
  | wrap (before : String) (cause : Fault) (after : String)
  /-- A table-load failure: kind, table name and file (each possibly empty), and cause. -/
  | load (kind : LoadKind) (table path : String) (cause : Option Fault)
  /-- A post-load hook of a table failed. -/
  | hook (table : String) (stage : HookStage) (cause : Fault)
  /-- A panic recovered while running a table, with the value it carried. -/
  | panic (value : String)
  /-- Several causes, reported one per line. -/
  | join (parts : List Fault)
  /-- The failures of one load over `total` tables, by table name in ascending order. -/
  | aggregate (total : Nat) (failures : List (String × Fault))
  deriving Repr, Inhabited

namespace Fault

mutual
/-- The text of a fault. -/
def message : Fault → String
  | text m => m
  | sentinel s => s.text
  | wrap b c a => b ++ c.message ++ a
  | load k t p c =>
    (if t = "" then "" else t ++ ": ") ++ k.name ++ (if p = "" then "" else " (" ++ p ++ ")") ++
      (match c with
       | some c => ": " ++ c.message
       | none => "")
  | hook t s c => t ++ ": " ++ s.name ++ " hook: " ++ c.message
  | panic v => "panic: " ++ v
  | join ps => messageLines ps
  | aggregate total fs =>
    toString fs.length ++ " of " ++ toString total ++ " tables failed: " ++ messagePairs fs
/-- The texts of joined causes, one per line. -/
def messageLines : List Fault → String
  | [] => ""
  | [f] => f.message
  | f :: fs => f.message ++ "\n" ++ messageLines fs
/-- The texts of named failures, separated by semicolons. -/
def messagePairs : List (String × Fault) → String
  | [] => ""
  | [(_, f)] => f.message
  | (_, f) :: fs => f.message ++ "; " ++ messagePairs fs
end

mutual
/-- Every node of a fault, depth first, a node before its causes. -/
def nodes : Fault → List Fault
  | text m => [text m]
  | sentinel s => [sentinel s]
  | wrap b c a => wrap b c a :: c.nodes
  | load k t p c =>
    load k t p c ::
      (match c with
       | some c => c.nodes
       | none => [])
  | hook t s c => hook t s c :: c.nodes
  | panic v => [panic v]
  | join ps => join ps :: nodesList ps
  | aggregate total fs => aggregate total fs :: nodesPairs fs
/-- The nodes of several causes in order. -/
def nodesList : List Fault → List Fault
  | [] => []
  | f :: fs => f.nodes ++ nodesList fs
/-- The nodes of named failures in order. -/
def nodesPairs : List (String × Fault) → List Fault
  | [] => []
  | (_, f) :: fs => f.nodes ++ nodesPairs fs
end

/-- The first table-load failure of a fault: kind, table and file. -/
def firstLoad? (f : Fault) : Option (LoadKind × String × String) :=
  f.nodes.findSome? fun
    | load k t p _ => some (k, t, p)
    | _ => none

/-- The first failed hook of a fault: table and stage. -/
def firstHook? (f : Fault) : Option (String × HookStage) :=
  f.nodes.findSome? fun
    | hook t s _ => some (t, s)
    | _ => none

/-- The value of the first recovered panic of a fault. -/
def firstPanic? (f : Fault) : Option String :=
  f.nodes.findSome? fun
    | panic v => some v
    | _ => none

/-- Whether a condition holds somewhere in the fault. -/
def hasSentinel (f : Fault) (s : Sentinel) : Bool :=
  f.nodes.any fun
    | sentinel s' => s' == s
    | _ => false

/-- Whether the fault matches the condition of a named kind: a table-load failure of that kind,
or the condition itself, is somewhere in it. -/
def hasLoadKind (f : Fault) (k : LoadKind) : Bool :=
  k.isNamed && f.nodes.any fun
    | load k' _ _ _ => k' == k
    | sentinel (.loadKind k') => k' == k
    | _ => false

/-- The kind of the first table-load failure of a fault. -/
def loadKind? (f : Fault) : Option LoadKind :=
  f.firstLoad?.map (·.1)

/-- The conditions a fault can be asked about by identity, in the order they are reported. -/
def conditions : List (Sum LoadKind Sentinel) :=
  [.inl .notFound, .inl .parse, .inl .illegalParam, .inl .unknownFormat,
    .inr .invalidRegistration, .inr .notLoaded, .inr .mutableCheckDisabled, .inr .rowNotFound,
    .inr .nullRow, .inr .canceled]

/-- The conditions of `conditions` that hold somewhere in a fault, in order. -/
def holds (f : Fault) : List (Sum LoadKind Sentinel) :=
  conditions.filter fun
    | .inl k => f.hasLoadKind k
    | .inr s => f.hasSentinel s

/-- What kind of failure a fault is, the first that applies: the aggregate of a load, a
table-load failure (its kind), a failed hook, a recovered panic, one of the conditions, or
none of these. -/
inductive Class where
  | aggregate
  | load (k : LoadKind)
  | hook
  | panic
  | condition (s : Sentinel)
  | plain
  deriving Repr, DecidableEq, Inhabited

/-- The class of a fault. -/
def classOf (f : Fault) : Class :=
  match f with
  | aggregate _ _ => .aggregate
  | _ =>
    match f.loadKind? with
    | some k => .load k
    | none =>
      if f.firstHook?.isSome then .hook
      else if f.firstPanic?.isSome then .panic
      else
        match (holds f).findSome? (fun c => match c with
          | .inr s => some s
          | .inl _ => none) with
        | some s => .condition s
        | none => .plain

end Fault

end ConfigTables
