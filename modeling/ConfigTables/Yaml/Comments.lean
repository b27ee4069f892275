import ConfigTables.Yaml.Read
/-!
# Placing comment lines on a YAML tree

Comment lines are gathered in runs between content lines and placed by where they stand:

* a run before the first content is the document's head comment when a blank line follows
  it; otherwise the part after its last blank line belongs to the first key or item, and the
  part before to the document;
* a run after the last content belongs to the document's foot when a blank line comes first;
  otherwise its lines up to the first blank line are feet, and the rest is the document's
  foot;
* a run between two content lines is the head comment of the key or item that starts the
  next content line; its first lines, when they stand further right than that key, are
  instead feet.

Lines that are feet are cut into groups of one column, and each group is the foot of the
last key or item that starts at or left of it, so a comment that steps back to an outer
level closes that level.

Blank lines inside a comment are kept as one empty line.
-/

namespace ConfigTables.Yaml

/-- One line of a comment run: a blank line or a comment at a column. -/
inductive RunLine where
  | blank
  | text (col : Nat) (t : String)
  deriving Inhabited

/-- The text of comment lines, blank runs kept as one empty line, blank lines at either end
dropped. -/
def runText (ls : List RunLine) : String :=
  let rec go : List RunLine → Bool → List String
    | [], _ => []
    | .blank :: rest, _ => go rest true
    | .text _ t :: rest, gap => (if gap then [""] else []) ++ t :: go rest false
  let parts := go ls false
  match parts with
  | "" :: rest => "\n".intercalate rest
  | _ => "\n".intercalate parts

/-- What each line of the text is: content (true), or not. -/
def contentRows (s : Array Char) (notes : List Note) : Array Bool :=
  let lines := (String.ofList s.toList).splitOn "\n"
  let commentRows := (notes.filter (!·.trailing)).map (·.row)
  (List.range lines.length).toArray.map fun r =>
    let l := (lines[r]?).getD ""
    !(l.all isBlank) && !commentRows.contains r

/-- The places comments go, found from the text: the document head, heads by key row,
feet by (row, column) of the comment, and the document foot. -/
structure Placement where
  docHead : String
  heads : List (Nat × String)
  feet : List (Nat × Nat × String)
  docFoot : String
  deriving Inhabited

/-- Whether a run holds a comment. -/
def hasText (ls : List RunLine) : Bool := ls.any fun l => match l with
  | .text _ _ => true
  | .blank => false

/-- Splits a run at its first blank line. -/
def splitAtBlank (ls : List RunLine) : List RunLine × List RunLine :=
  (ls.takeWhile (fun l => match l with | .blank => false | _ => true),
   ls.dropWhile (fun l => match l with | .blank => false | _ => true))

/-- The comments of a run without blank lines cut into groups of one column, each with the
row it starts on and its column. -/
def columnGroups (start : Nat) (ls : List RunLine) : List (Nat × Nat × List RunLine) :=
  let rec go : Nat → List RunLine → List (Nat × Nat × List RunLine) → List (Nat × Nat × List RunLine)
    | _, [], acc => acc.reverse
    | r, l :: rest, acc =>
      match l, acc with
      | .text col _, (r0, c0, g) :: more =>
        if col = c0 then go (r + 1) rest ((r0, c0, g ++ [l]) :: more)
        else go (r + 1) rest ((r, col, [l]) :: acc)
      | .text col _, [] => go (r + 1) rest [(r, col, [l])]
      | .blank, _ => go (r + 1) rest acc
  go start ls []

/-- The feet a run of comments without blank lines gives: each group of one column is the
foot of the last key or item at or left of it. -/
def groupFeet (start : Nat) (ls : List RunLine) : List (Nat × Nat × String) :=
  (columnGroups start ls).map fun (r, c, g) => (r, c, runText g)

/-- Finds the runs of comment and blank lines of the document's lines `[0, last]` and says
where each goes. `colAt r` is the column of the content on line `r`. -/
def place (rows : Array Bool) (notes : List Note) (last : Nat) (colAt : Nat → Nat) : Placement :=
  let noteAt (r : Nat) : Option Note := notes.find? (fun n => n.row = r && !n.trailing)
  let lineOf (r : Nat) : RunLine :=
    match noteAt r with
    | some n => .text n.col n.text
    | none => .blank
  let isContent (r : Nat) : Bool := (rows[r]?).getD false
  -- runs: (first row, rows) between content lines
  let rec runs : Nat → Nat → List Nat → List (List Nat)
    | 0, _, acc => if acc.isEmpty then [] else [acc.reverse]
    | f + 1, r, acc =>
      if r > last then (if acc.isEmpty then [] else [acc.reverse])
      else if isContent r then
        (if acc.isEmpty then [] else [acc.reverse]) ++ runs f (r + 1) []
      else runs f (r + 1) (r :: acc)
  let all := runs (last + 2) 0 []
  let firstContent := (List.range (last + 1)).find? isContent
  all.foldl (fun (p : Placement) run =>
    let ls := run.map lineOf
    if !hasText ls then p
    else
      let start := run.headD 0
      let stop := run.getLastD 0
      let before := firstContent.all (start < ·)
      let after := !((List.range (last + 1)).any fun r => r > stop && isContent r)
      if before then
        let trimmed := ls.dropWhile (fun l => match l with | .blank => true | _ => false)
        let endsBlank := match trimmed.getLast? with
          | some .blank => true
          | _ => false
        if endsBlank then { p with docHead := runText trimmed }
        else
          -- split at the last blank line
          let rev := trimmed.reverse
          let tail := rev.takeWhile (fun l => match l with | .blank => false | _ => true)
          let headPart := rev.drop tail.length
          let next := stop + 1
          { p with docHead := runText headPart.reverse,
                   heads := p.heads ++ [(next, runText tail.reverse)] }
      else if after then
        match ls with
        | .blank :: _ => { p with docFoot := runText ls }
        | _ =>
          let (lead, rest) := splitAtBlank ls
          { p with feet := p.feet ++ groupFeet start lead,
                   docFoot := if hasText rest then runText rest else p.docFoot }
      else
        let next := stop + 1
        let c := colAt next
        let (lead, rest) := splitAtBlank ls
        let leadDeeper := !lead.isEmpty && lead.all fun l => match l with
          | .text col _ => col > c
          | .blank => true
        if leadDeeper then
          let p := { p with feet := p.feet ++ groupFeet start lead }
          if hasText rest then { p with heads := p.heads ++ [(next, runText rest)] } else p
        else { p with heads := p.heads ++ [(next, runText ls)] })
    ⟨"", [], [], ""⟩

mutual
/-- The keys and items of a tree in reading order, numbered from `n`: their number, line
(from 1) and column. -/
def anchorsOf (n : Nat) (isAnchor : Bool) : Node → List (Nat × Nat × Nat) × Nat
  | ⟨kind, _, _, _, _, _, content, _, _, _, row, col⟩ =>
    let here := if isAnchor then [(n, row, col)] else []
    let next := if isAnchor then n + 1 else n
    let (rest, m) := childAnchors next kind 0 content
    (here ++ rest, m)
/-- The keys and items below a node of kind `k`; `i` is the position among its children. -/
def childAnchors (n : Nat) (k : Kind) (i : Nat) : List Node → List (Nat × Nat × Nat) × Nat
  | [] => ([], n)
  | c :: cs =>
    let isAnchor := (k = .mapping && i % 2 = 0) || k = .sequence
    let (a, m) := anchorsOf n isAnchor c
    let (b, m') := childAnchors m k (i + 1) cs
    (a ++ b, m')
end

mutual
/-- Puts heads and feet on the keys and items of a tree, by their numbers from `n`. -/
def putComments (heads feet : List (Nat × String)) (n : Nat) (isAnchor : Bool) :
    Node → Node × Nat
  | ⟨kind, fl, st, tg, v, an, content, hd, ln, ft, row, col⟩ =>
    let next := if isAnchor then n + 1 else n
    let (content', m) := putChildren heads feet next kind 0 content
    let head := if !isAnchor then hd else
      match heads.lookup n with
      | some h => if hd = "" then h else hd
      | none => hd
    let foot := if !isAnchor then ft else
      match feet.lookup n with
      | some t => if ft = "" then t else ft ++ "\n" ++ t
      | none => ft
    (⟨kind, fl, st, tg, v, an, content', head, ln, foot, row, col⟩, m)
/-- Puts heads and feet below a node of kind `k`. -/
def putChildren (heads feet : List (Nat × String)) (n : Nat) (k : Kind) (i : Nat) :
    List Node → List Node × Nat
  | [] => ([], n)
  | c :: cs =>
    let isAnchor := (k = .mapping && i % 2 = 0) || k = .sequence
    let (c', m) := putComments heads feet n isAnchor c
    let (cs', m') := putChildren heads feet m k (i + 1) cs
    (c' :: cs', m')
end

/-- Places the comments of a document's text on its content node: gives the content with
heads and feet, and the document's head and foot comments. `last` is the last line of the
document. -/
def placeComments (s : Array Char) (notes : List Note) (last : Nat) (content : Node) :
    Node × String × String :=
  let rows := contentRows s notes
  let (anchors, _) := anchorsOf 0 false content
  let colAt (r : Nat) : Nat :=
    match anchors.find? (fun (_, row, _) => row = r + 1) with
    | some (_, _, c) => c
    | none => 0
  let p := place rows notes last colAt
  let heads := p.heads.filterMap fun (r, t) =>
    (anchors.find? (fun (_, row, _) => row = r + 1)).map fun (i, _, _) => (i, t)
  let feet := p.feet.filterMap fun (r, col, t) =>
    ((anchors.filter (fun (_, row, c) => row ≤ r && c ≤ col)).getLast?).map fun (i, _, _) => (i, t)
  let (content, _) := putComments heads feet 0 false content
  (content, p.docHead, p.docFoot)

end ConfigTables.Yaml
