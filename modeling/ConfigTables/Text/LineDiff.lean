/-!
# Line diffs

Two texts are compared line by line: every distinct line gets a number, in the order lines are
first met in the first text and then the second, and the texts become lists of numbers. The
lists are compared by the middle-snake algorithm: common prefix and suffix first, then the
shortcuts (one side empty; the shorter inside the longer; a single item; a half match, where
a common run at least half as long as the longer side splits the problem in two), else the
forward and backward searches of the edit graph meet in the middle and split it there.

The edits are then tidied: runs of deletions and insertions between equal parts become one
deletion followed by one insertion, with what they share at either end moved into the equal
parts around them; equal parts next to each other are joined; and a single edit between two
equal parts is slid over one of them when that removes it, after which tidying starts over.

The printed diff lists the deleted lines with `- ` and the inserted lines with `+ ` in the
order of the edits; equal lines are left out.
-/

namespace ConfigTables.Text.LineDiff

/-- What an edit does. -/
inductive Op where
  | delete
  | insert
  | equal
  deriving Repr, DecidableEq, Inhabited

/-- An edit: what it does and the items it covers. -/
structure Edit where
  op : Op
  items : List Nat
  deriving Repr, DecidableEq, Inhabited

/-- The length of the common prefix of two lists. -/
def commonPrefix : List Nat → List Nat → Nat
  | x :: xs, y :: ys => if x = y then commonPrefix xs ys + 1 else 0
  | _, _ => 0

/-- The length of the common suffix of two lists. -/
def commonSuffix (a b : List Nat) : Nat := commonPrefix a.reverse b.reverse

/-- The first position at or after `start` where `needle` occurs in `hay`. -/
def indexFrom (hay needle : List Nat) (start : Nat) : Option Nat :=
  ((List.range (hay.length + 1)).drop start).find? (fun i => needle.isPrefixOf (hay.drop i))

/-! ## Tidying -/

/-- The equal part before an edit run absorbs a shared prefix; with none before, a new equal
part goes first. -/
def absorbPrefix (out : List Edit) (shared : List Nat) : List Edit :=
  match out.getLast? with
  | some { op := .equal, items := xs } => out.dropLast ++ [⟨.equal, xs ++ shared⟩]
  | _ => ⟨.equal, shared⟩ :: out

/-- The first tidying pass, over the edits after `out` (which is tidied), with the run of
edits since the last equal part (its edits, deleted and inserted items). -/
def mergeRuns (out : List Edit) (run : List Edit) (dels ins : List Nat) : List Edit → List Edit
  | [] => out ++ run
  | e :: rest =>
    match e.op with
    | .delete => mergeRuns out (run ++ [e]) (dels ++ e.items) ins rest
    | .insert => mergeRuns out (run ++ [e]) dels (ins ++ e.items) rest
    | .equal =>
      let nd := (run.filter (·.op = .delete)).length
      let ni := (run.filter (·.op = .insert)).length
      if nd + ni > 1 then
        let (out, dels, ins, e) :=
          if nd ≠ 0 ∧ ni ≠ 0 then
            let p := commonPrefix ins dels
            let (out, ins, dels) :=
              if p ≠ 0 then (absorbPrefix out (ins.take p), ins.drop p, dels.drop p) else (out, ins, dels)
            let q := commonSuffix ins dels
            if q ≠ 0 then
              (out, dels.take (dels.length - q), ins.take (ins.length - q),
                ⟨.equal, ins.drop (ins.length - q) ++ e.items⟩)
            else (out, dels, ins, e)
          else (out, dels, ins, e)
        let merged : List Edit :=
          if nd = 0 then [⟨.insert, ins⟩]
          else if ni = 0 then [⟨.delete, dels⟩]
          else [⟨.delete, dels⟩, ⟨.insert, ins⟩]
        mergeRuns (out ++ merged ++ [e]) [] [] [] rest
      else if run.isEmpty then
        match out.getLast? with
        | some { op := .equal, items := xs } => mergeRuns (out.dropLast ++ [⟨.equal, xs ++ e.items⟩]) [] [] [] rest
        | _ => mergeRuns (out ++ [e]) [] [] [] rest
      else mergeRuns (out ++ run ++ [e]) [] [] [] rest

/-- The second tidying pass: slides single edits between equal parts over a neighbour that
they end or start with. Also says whether anything moved. -/
def slide (fuel : Nat) (ds : Array Edit) (p : Nat) (moved : Bool) : Array Edit × Bool :=
  match fuel with
  | 0 => (ds, moved)
  | fuel + 1 =>
    if p + 1 < ds.size ∧ 0 < p then
      let prev := ds.getD (p - 1) default
      let cur := ds.getD p default
      let next := ds.getD (p + 1) default
      if prev.op = .equal ∧ next.op = .equal then
        if prev.items.isSuffixOf cur.items then
          let cur' : Edit := ⟨cur.op, prev.items ++ cur.items.take (cur.items.length - prev.items.length)⟩
          let next' : Edit := ⟨.equal, prev.items ++ next.items⟩
          slide fuel (((ds.set! p cur').set! (p + 1) next').eraseIdxIfInBounds (p - 1)) (p + 1) true
        else if next.items.isPrefixOf cur.items then
          let prev' : Edit := ⟨.equal, prev.items ++ next.items⟩
          let cur' : Edit := ⟨cur.op, cur.items.drop next.items.length ++ next.items⟩
          slide fuel (((ds.set! (p - 1) prev').set! p cur').eraseIdxIfInBounds (p + 1)) (p + 1) true
        else slide fuel ds (p + 1) moved
      else slide fuel ds (p + 1) moved
    else (ds, moved)

/-- Tidies a list of edits. -/
def cleanupMerge (fuel : Nat) (ds : List Edit) : List Edit :=
  let first := mergeRuns [] [] [] [] (ds ++ [⟨.equal, []⟩])
  let first := match first.getLast? with
    | some { items := [], .. } => first.dropLast
    | _ => first
  match fuel with
  | 0 => first
  | fuel + 1 =>
    let (slid, moved) := slide (first.length + 1) first.toArray 1 false
    if moved then cleanupMerge fuel slid.toList else slid.toList

/-! ## Comparing -/

/-- A half match: when a common run at least half as long as the longer list exists around
the seed at position `i` of the longer list, the parts before and after it in the longer and
the shorter list, and the run. -/
def halfMatchAt (l s : List Nat) (i : Nat) :
    Option (List Nat × List Nat × List Nat × List Nat × List Nat) :=
  let seed := (l.drop i).take (l.length / 4)
  let starts := (List.range (s.length + 1)).filter (fun j => seed.isPrefixOf (s.drop j))
  let best := starts.foldl (fun (acc : Nat × Option (List Nat × List Nat × List Nat × List Nat × List Nat)) j =>
    let pre := commonPrefix (l.drop i) (s.drop j)
    let suf := commonSuffix (l.take i) (s.take j)
    if acc.1 < suf + pre then
      (suf + pre, some (l.take (i - suf), l.drop (i + pre), s.take (j - suf), s.drop (j + pre),
        (s.take j).drop (j - suf) ++ (s.drop j).take pre))
    else acc) (0, none)
  if best.1 * 2 < l.length then none else best.2

/-- A half match of two lists: parts of the first, parts of the second, and the common run. -/
def halfMatch (a b : List Nat) : Option (List Nat × List Nat × List Nat × List Nat × List Nat) :=
  let (l, s) := if a.length > b.length then (a, b) else (b, a)
  if l.length < 4 ∨ s.length * 2 < l.length then none
  else
    let h1 := halfMatchAt l s ((l.length + 3) / 4)
    let h2 := halfMatchAt l s ((l.length + 1) / 2)
    let hm := match h1, h2 with
      | none, none => none
      | some h, none => some h
      | none, some h => some h
      | some h, some h' => if h.2.2.2.2.length > h'.2.2.2.2.length then some h else some h'
    hm.map fun (la, lb, sa, sb, mid) => if a.length > b.length then (la, lb, sa, sb, mid) else (sa, sb, la, lb, mid)

/-- Where the forward and backward searches of the edit graph meet, if they do. -/
def middleSnake (a b : Array Nat) : Option (Nat × Nat) := Id.run do
  let n := (a.size : Int)
  let m := (b.size : Int)
  let maxD := (a.size + b.size + 1) / 2
  let off := (maxD : Int)
  let len := 2 * maxD
  let mut v1 : Array Int := Array.replicate len (-1)
  let mut v2 : Array Int := Array.replicate len (-1)
  v1 := v1.set! (maxD + 1) 0
  v2 := v2.set! (maxD + 1) 0
  let delta := n - m
  let front := delta % 2 ≠ 0
  let mut k1start : Int := 0
  let mut k1end : Int := 0
  let mut k2start : Int := 0
  let mut k2end : Int := 0
  for dn in [0:maxD] do
    let d := (dn : Int)
    let k1first := -d + k1start
    for i in [0:dn + 1] do
      let k1 := k1first + 2 * (i : Int)
      if k1 > d - k1end then break
      let ko := off + k1
      let mut x1 : Int :=
        if k1 = -d ∨ (k1 ≠ d ∧ v1.getD (ko - 1).toNat (-1) < v1.getD (ko + 1).toNat (-1))
        then v1.getD (ko + 1).toNat (-1) else v1.getD (ko - 1).toNat (-1) + 1
      let mut y1 := x1 - k1
      for _ in [0:a.size] do
        if x1 < n ∧ y1 < m ∧ a.getD x1.toNat 0 = b.getD y1.toNat 0 then
          x1 := x1 + 1
          y1 := y1 + 1
        else break
      v1 := v1.set! ko.toNat x1
      if x1 > n then k1end := k1end + 2
      else if y1 > m then k1start := k1start + 2
      else if front then
        let k2o := off + delta - k1
        if 0 ≤ k2o ∧ k2o < len ∧ v2.getD k2o.toNat (-1) ≠ -1 then
          let x2 := n - v2.getD k2o.toNat (-1)
          if x1 ≥ x2 then return some (x1.toNat, y1.toNat)
    let k2first := -d + k2start
    for i in [0:dn + 1] do
      let k2 := k2first + 2 * (i : Int)
      if k2 > d - k2end then break
      let ko := off + k2
      let mut x2 : Int :=
        if k2 = -d ∨ (k2 ≠ d ∧ v2.getD (ko - 1).toNat (-1) < v2.getD (ko + 1).toNat (-1))
        then v2.getD (ko + 1).toNat (-1) else v2.getD (ko - 1).toNat (-1) + 1
      let mut y2 := x2 - k2
      for _ in [0:a.size] do
        if x2 < n ∧ y2 < m ∧ a.getD (n - x2 - 1).toNat 0 = b.getD (m - y2 - 1).toNat 0 then
          x2 := x2 + 1
          y2 := y2 + 1
        else break
      v2 := v2.set! ko.toNat x2
      if x2 > n then k2end := k2end + 2
      else if y2 > m then k2start := k2start + 2
      else if !front then
        let k1o := off + delta - k2
        if 0 ≤ k1o ∧ k1o < len ∧ v1.getD k1o.toNat (-1) ≠ -1 then
          let x1 := v1.getD k1o.toNat (-1)
          let y1 := off + x1 - k1o
          if x1 ≥ n - x2 then return some (x1.toNat, y1.toNat)
  return none

mutual
/-- The edits turning `a` into `b`. -/
def diffMain (fuel : Nat) (a b : List Nat) : List Edit :=
  match fuel with
  | 0 => [⟨.delete, a⟩, ⟨.insert, b⟩]
  | fuel + 1 =>
    if a = b then (if a.isEmpty then [] else [⟨.equal, a⟩])
    else
      let p := commonPrefix a b
      let pre := a.take p
      let a1 := a.drop p
      let b1 := b.drop p
      let q := commonSuffix a1 b1
      let suf := a1.drop (a1.length - q)
      let a2 := a1.take (a1.length - q)
      let b2 := b1.take (b1.length - q)
      let mid := compute fuel a2 b2
      cleanupMerge (a.length + b.length + 1)
        ((if pre.isEmpty then [] else [⟨.equal, pre⟩]) ++ mid ++ (if suf.isEmpty then [] else [⟨.equal, suf⟩]))

/-- The edits for lists with no common prefix or suffix. -/
def compute (fuel : Nat) (a b : List Nat) : List Edit :=
  match fuel with
  | 0 => [⟨.delete, a⟩, ⟨.insert, b⟩]
  | fuel + 1 =>
    if a.isEmpty then [⟨.insert, b⟩]
    else if b.isEmpty then [⟨.delete, a⟩]
    else
      let (l, s) := if a.length > b.length then (a, b) else (b, a)
      let op : Op := if a.length > b.length then .delete else .insert
      match indexFrom l s 0 with
      | some i => [⟨op, l.take i⟩, ⟨.equal, s⟩, ⟨op, l.drop (i + s.length)⟩]
      | none =>
        if s.length = 1 then [⟨.delete, a⟩, ⟨.insert, b⟩]
        else
          match halfMatch a b with
          | some (a1, a2, b1, b2, common) => diffMain fuel a1 b1 ++ [⟨.equal, common⟩] ++ diffMain fuel a2 b2
          | none =>
            match middleSnake a.toArray b.toArray with
            | some (x, y) => diffMain fuel (a.take x) (b.take y) ++ diffMain fuel (a.drop x) (b.drop y)
            | none => [⟨.delete, a⟩, ⟨.insert, b⟩]
end

/-! ## Lines -/

/-- The lines of a text, each with its line feed; a last line without one is kept. -/
def linesOf (t : String) : List String :=
  let rec go (acc : List Char) : List Char → List String
    | [] => if acc.isEmpty then [] else [String.ofList acc.reverse]
    | '\n' :: rest => String.ofList ('\n' :: acc).reverse :: go [] rest
    | c :: rest => go (c :: acc) rest
  go [] t.toList

/-- Numbers lines, first come first numbered from one; the table grows with new lines. -/
def number (table : List String) : List String → List String × List Nat
  | [] => (table, [])
  | l :: ls =>
    let (table, k) := match table.idxOf? l with
      | some i => (table, i + 1)
      | none => (table ++ [l], table.length + 1)
    let (table, ks) := number table ls
    (table, k :: ks)

/-- The line diff of two texts: deleted lines with `- `, inserted ones with `+ `. -/
def lineDiff (a b : String) : String :=
  let (table, xs) := number [] (linesOf a)
  let (table, ys) := number table (linesOf b)
  let edits := diffMain (xs.length + ys.length + 1) xs ys
  String.join (edits.map fun e =>
    let mark := match e.op with
      | .delete => "- "
      | .insert => "+ "
      | .equal => ""
    if e.op = .equal then ""
    else String.join (e.items.map fun k =>
      let line := table.getD (k - 1) ""
      mark ++ (if line.endsWith "\n" then (line.dropEnd 1).toString else line) ++ "\n"))

end ConfigTables.Text.LineDiff
