import ConfigTables.Present.Markdown.Inline
/-!
# Emphasis

While the text of a block is read, its inline content is a list of cells: text that
remembers where it lies in the block, runs of emphasis characters that may still pair,
brackets that may still open a link, and nodes already made. This module pairs the runs
into emphasis and struck text by the delimiter algorithm of CommonMark:

* A run of `*`, `_` or `~` is left-flanking when the character after it is no white space
  and, if it is punctuation, the one before is white space or punctuation; right-flanking
  the other way round. Punctuation and white space are taken in the Unicode sense, and the
  ends of a line count as white space. A `*` or `~` run opens when left-flanking and closes
  when right-flanking; an `_` run must besides not sit inside a word.
* Runs are taken as closers from left to right. A closer pairs with the nearest run before
  it of the same character that can open, passing over one that would break the rule of
  three: when the opener can also close or the closer can also open, their lengths may not
  add up to a multiple of three unless both are multiples of three. A pair uses two
  characters of each run (strong emphasis) when both have two left, else one; a pair of `~`
  runs makes struck text. What lies between the pair becomes the new node's content, and
  the runs inside it are given up.
* A closer that finds no opener is given up at once unless it can open or an opener of its
  character was passed over; either way the next run is taken as closer.
* What is left of a run given up becomes text. It joins the text just before it when that
  text stops where the run starts and no line break follows it; otherwise it is a text node
  of its own. The runs still standing at the end are given up from the last to the first.
-/

namespace ConfigTables.Present.Markdown

/-- A run of emphasis characters that may still pair: its character, where it starts in
the block, how many of its characters are left and how many it had, and whether it can open
and close. -/
structure Run where
  char : Char
  start : Nat
  left : Nat
  length : Nat
  opens : Bool
  closes : Bool
  deriving Repr, Inhabited

/-- An inline node while the text of a block is read. -/
inductive Cell where
  /-- Text, where it starts and stops in the block, and whether a line break follows it. -/
  | text (s : String) (start stop : Nat) (lineBreak : Bool)
  | run (r : Run)
  /-- An opening bracket that may still begin a link (`[`) or an image (`![`), and where it
  starts. -/
  | bracket (image : Bool) (start : Nat)
  | emph (strong : Bool) (children : List Cell)
  | strike (children : List Cell)
  /-- A link or an image, its content and its target. -/
  | link (image : Bool) (children : List Cell) (url : String)
  /-- A node that is already complete: a code span, an automatic link or inline HTML. -/
  | node (n : Inline)
  deriving Repr, Inhabited

/-- A run of `n` characters `c` starting at `start`, between the characters before and
after it, with what it can open and close by the flanking rules. -/
def Run.scan (c : Char) (start n : Nat) (before after : Char) : Run :=
  let beforePunct := isUnicodePunct before
  let beforeSpace := isUnicodeSpace before
  let afterPunct := isUnicodePunct after
  let afterSpace := isUnicodeSpace after
  let left := !afterSpace && (!afterPunct || beforeSpace || beforePunct)
  let right := !beforeSpace && (!beforePunct || afterSpace || afterPunct)
  let opens := if c = '_' then left && (!right || beforePunct) else left
  let closes := if c = '_' then right && (!left || afterPunct) else right
  ⟨c, start, n, n, opens, closes⟩

/-- How many characters a closer takes from an opener: none when the pair would break the
rule of three, two when both runs have two left, else one. -/
def Run.takes (opener closer : Run) : Nat :=
  if (opener.closes || closer.opens) && (opener.length + closer.length) % 3 = 0 &&
      closer.length % 3 ≠ 0 then 0
  else if opener.left ≥ 2 && closer.left ≥ 2 then 2
  else 1

/-- The characters left of a run, as text. -/
def Run.rest (r : Run) : String := String.ofList (List.replicate r.left r.char)

/-- The run a cell holds, if any. -/
def Cell.run? : Cell → Option Run
  | .run r => some r
  | _ => none

/-- Whether a cell is a bracket that may still open a link or an image. -/
def Cell.isBracket : Cell → Bool
  | .bracket _ _ => true
  | _ => false

/-- Text put after cells held newest first: it joins the newest cell when that is text
stopping where the new text starts with no line break after it, and is a cell of its own
otherwise. -/
def joinText (cells : List Cell) (s : String) (start stop : Nat) : List Cell :=
  match cells with
  | .text t a b false :: more =>
    if b = start then .text (t ++ s) a stop false :: more else .text s start stop false :: cells
  | _ => .text s start stop false :: cells

/-- A run given up after cells held newest first: what is left of it joins them as text. -/
def giveUp (cells : List Cell) (r : Run) : List Cell :=
  if r.left = 0 then cells else joinText cells r.rest r.start (r.start + r.left)

/-- Cells with their runs given up in turn, each joining the text just before it. -/
def dissolve (cells : List Cell) : List Cell :=
  (cells.foldl (fun acc c =>
    match c with
    | .run r => giveUp acc r
    | c => c :: acc) []).reverse

/-- The position of the first run at or after position `i`. -/
def nextRun (cells : List Cell) (i : Nat) : Option Nat :=
  ((List.range (cells.length - i)).find? fun k => (cells[i + k]?.bind Cell.run?).isSome).map (i + ·)

/-- Cells with the run at position `k` given up, joining the cell before it as text. -/
def removeRun (cells : List Cell) (k : Nat) : List Cell :=
  match cells[k]?.bind Cell.run? with
  | some r => (giveUp (cells.take k).reverse r).reverse ++ cells.drop (k + 1)
  | none => cells

/-- Pairs the opener at position `o` with the closer at position `k`, each giving `n`
characters: the cells between them become the content of the new node, placed right after
the opener; a run left with no characters goes. Gives the cells and the position right
after the new node, where the closer stands if anything is left of it. -/
def pairAt (cells : List Cell) (o k : Nat) (opener closer : Run) (n : Nat) : List Cell × Nat :=
  let opener := { opener with left := opener.left - n }
  let closer := { closer with left := closer.left - n }
  let inner := dissolve ((cells.drop (o + 1)).take (k - o - 1))
  let made := if closer.char = '~' then Cell.strike inner else Cell.emph (n = 2) inner
  let front := cells.take o ++ (if opener.left = 0 then [] else [Cell.run opener]) ++ [made]
  (front ++ (if closer.left = 0 then [] else [Cell.run closer]) ++ cells.drop (k + 1), front.length)

/-- The runs before position `k` that can open a closer of character `c`, nearest first. -/
def openersBefore (cells : List Cell) (k : Nat) (c : Char) : List (Nat × Run) :=
  (List.range k).reverse.filterMap fun j =>
    (cells[j]?.bind Cell.run?).bind fun r => if r.opens && r.char = c then some (j, r) else none

/-- Pairs the runs of cells, taking closers from position `i` on. The fuel bounds the
steps; each moves on to a later closer or uses up characters of a run. -/
def pairFrom : Nat → List Cell → Nat → List Cell
  | 0, cells, _ => cells
  | fuel + 1, cells, i =>
    match nextRun cells i with
    | none => cells
    | some k =>
      match cells[k]?.bind Cell.run? with
      | none => cells
      | some closer =>
        if !closer.closes then pairFrom fuel cells (k + 1)
        else
          let candidates := openersBefore cells k closer.char
          match candidates.find? (fun (_, r) => r.takes closer > 0) with
          | some (o, opener) =>
            let (cells, next) := pairAt cells o k opener closer (opener.takes closer)
            pairFrom fuel cells next
          | none =>
            if candidates.isEmpty && !closer.opens then pairFrom fuel (removeRun cells k) k
            else pairFrom fuel cells (k + 1)

/-- Gives up the runs among cells held newest first, from the newest: each joins the text
just before it. `done` holds the cells already passed, oldest first. -/
def clearFrom : List Cell → List Cell → List Cell
  | [], done => done
  | .run r :: .text t a b false :: more, done =>
    if r.left = 0 then clearFrom (.text t a b false :: more) done
    else if b = r.start then clearFrom more (.text (t ++ r.rest) a (r.start + r.left) false :: done)
    else clearFrom (.text t a b false :: more) (.text r.rest r.start (r.start + r.left) false :: done)
  | .run r :: before, done =>
    if r.left = 0 then clearFrom before done
    else clearFrom before (.text r.rest r.start (r.start + r.left) false :: done)
  | c :: before, done => clearFrom before (c :: done)
termination_by cells => cells.length

/-- Pairs the runs of cells, then gives up those left from the last to the first. -/
def settle (cells : List Cell) : List Cell :=
  let chars := (cells.filterMap Cell.run?).foldl (fun n r => n + r.left) 0
  clearFrom (pairFrom (3 * (cells.length + chars) + 1) cells 0).reverse []

mutual

/-- Whether a link (not an image) stands among cells, or after the first of the cells
inside any of them: where the check that links do not nest looks. -/
def Cell.linkAmong : List Cell → Bool
  | [] => false
  | .link false _ _ :: _ => true
  | .link true children _ :: rest => Cell.linkAfterFirst children || Cell.linkAmong rest
  | .emph _ children :: rest => Cell.linkAfterFirst children || Cell.linkAmong rest
  | .strike children :: rest => Cell.linkAfterFirst children || Cell.linkAmong rest
  | _ :: rest => Cell.linkAmong rest

/-- Whether a link stands among cells after the first one. -/
def Cell.linkAfterFirst : List Cell → Bool
  | [] => false
  | _ :: rest => Cell.linkAmong rest

end

mutual

/-- The inline node a cell makes once reading is over: a bracket that opened nothing and a
run are text, an image shows the plain text of its content. -/
def Cell.toInline : Cell → Inline
  | .text s _ _ lineBreak => .text s lineBreak
  | .run r => .text r.rest false
  | .bracket image _ => .text (if image then "![" else "[") false
  | .emph strong children => .emph strong (Cell.toInlines children)
  | .strike children => .strike (Cell.toInlines children)
  | .link false children url => .link (Cell.toInlines children) url
  | .link true children url => .image (Inline.plainAll (Cell.toInlines children)) url
  | .node n => n

/-- The inline nodes cells make. -/
def Cell.toInlines : List Cell → List Inline
  | [] => []
  | c :: rest => c.toInline :: Cell.toInlines rest

end

end ConfigTables.Present.Markdown
