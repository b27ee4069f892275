import ConfigTables.Fault
import ConfigTables.Json.Value
/-!
# Faults as JSON

A fault is described as a JSON object: the word of its class, its message, the conditions
that hold in it, and the facts of its first table-load failure, first failed hook and first
recovered panic. The aggregate of a load adds the number of tables, the failed names in
ascending order, and each failed table's own description.
-/

namespace ConfigTables.Fault

/-- The word of a condition. -/
def conditionWord : Sum LoadKind Sentinel → String
  | .inl k => k.name
  | .inr .invalidRegistration => "invalid_registration"
  | .inr .notLoaded => "not_loaded"
  | .inr .mutableCheckDisabled => "mutable_check_disabled"
  | .inr .rowNotFound => "row_not_found"
  | .inr .nullRow => "null_row"
  | .inr .canceled => "context_canceled"
  | .inr _ => "error"

/-- The word of a class. -/
def Class.word : Class → String
  | .aggregate => "load_errors"
  | .load k => k.name
  | .hook => "hook_error"
  | .panic => "panic"
  | .condition c => conditionWord (.inr c)
  | .plain => "error"

/-- The members every description starts with: class word, message, and the conditions that
hold when there are any. -/
def headMembers (f : Fault) : List (String × Json) :=
  let base := [("error", Json.string f.classOf.word), ("message", Json.string f.message)]
  match f.holds with
  | [] => base
  | cs => base ++ [("is", Json.strings (cs.map conditionWord))]

/-- The members naming the first load failure, hook and panic of a fault. -/
def detailMembers (f : Fault) : List (String × Json) :=
  (match f.firstLoad? with
    | some (k, t, p) => [("load_kind", Json.string k.name), ("load_name", .string t), ("load_path", .string p)]
    | none => []) ++
  (match f.firstHook? with
    | some (t, st) => [("hook", .object [("name", .string t), ("stage", .string st.name)])]
    | none => []) ++
  (match f.firstPanic? with
    | some v => [("panic", .string v)]
    | none => [])

/-- A fault as a JSON object. -/
def toJson : Fault → Json
  | f@(.aggregate total fails) =>
    .object (headMembers f ++ [("total", .nat total),
      ("failed", Json.strings ((fails.map (·.1)).mergeSort (fun a b => decide (a ≤ b)))),
      ("tables", .object (fails.attach.map fun ⟨(t, e), _⟩ => (t, detailed e)))])
  | f => .object (headMembers f ++ detailMembers f)
where
  /-- A failed table's fault inside an aggregate. -/
  detailed (e : Fault) : Json := .object (headMembers e ++ detailMembers e)

/-- A plain message as a fault's JSON object. -/
def textJson (m : String) : Json := toJson (.text m)

end ConfigTables.Fault
