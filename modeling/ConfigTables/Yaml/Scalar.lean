import ConfigTables.Yaml.Source
/-!
# Reading YAML scalars

The four written forms of a scalar that stand on their own:

* plain text, which ends at `: ` (a colon before a blank), at ` #`, and inside flow
  collections also at `, [ ] { } ?`; it may go on over following lines that are indented
  more than the enclosing block, a single line break folding to a blank and each further one
  staying a line break;
* double-quoted text, with backslash escapes and the same folding;
* single-quoted text, in which `''` stands for a quote;
* block text after `|` (kept line by line) or `>` (lines folded), with an optional
  indentation digit and a chomping sign (`-` drops the final line breaks, `+` keeps them all,
  none keeps one).
-/

namespace ConfigTables.Yaml

/-- The line breaks and blanks between two pieces of a folded scalar: a single break is a
blank, more breaks are kept less one; with no break, the blanks are kept. -/
def joinFolded (blanks : String) (breaks : Nat) : String :=
  if breaks = 0 then blanks
  else if breaks = 1 then " "
  else String.ofList (List.replicate (breaks - 1) '\n')

/-- Whether plain text may start with this character (given the one after it). -/
def plainStart (ch : Char) (next : Option Char) (inFlow : Bool) : Bool :=
  if ch = '-' then !blankz next
  else if ch = '?' || ch = ':' then !inFlow && !blankz next
  else
    !(isBlank ch || ch = '\n' || isFlowIndicator ch || ch = '#' || ch = '&' || ch = '*' ||
      ch = '!' || ch = '|' || ch = '>' || ch = '\'' || ch = '"' || ch = '%' || ch = '@' ||
      ch = '`')

/-- Whether plain text stops at the cursor. -/
def plainStops (s : Array Char) (c : Cur) (inFlow : Bool) : Bool :=
  match at? s c with
  | none => true
  | some ch =>
    (ch = ':' && blankz (ahead? s c 1)) ||
      (inFlow && (ch = ',' || ch = '?' || ch = '[' || ch = ']' || ch = '{' || ch = '}'))

/-- Reads the non-blank run of plain text on one line. -/
def plainRun (s : Array Char) (inFlow : Bool) (c : Cur) : List Char × Cur :=
  let rec go : Nat → List Char → Cur → List Char × Cur
    | 0, acc, c => (acc, c)
    | f + 1, acc, c =>
      if blankz (at? s c) || plainStops s c inFlow then (acc, c)
      else match at? s c with
        | some ch => go f (ch :: acc) (step s c)
        | none => (acc, c)
  let (acc, c') := go (s.size - c.i + 1) [] c
  (acc.reverse, c')

/-- Steps over blanks and line breaks after plain text: the blanks seen before the first
break, the number of breaks, and where it stopped. -/
def plainGap (s : Array Char) (c : Cur) : String × Nat × Cur :=
  let rec go : Nat → List Char → Nat → Cur → List Char × Nat × Cur
    | 0, bl, n, c => (bl, n, c)
    | f + 1, bl, n, c =>
      match at? s c with
      | some ' ' | some '\t' =>
        let ch := (at? s c).getD ' '
        go f (if n = 0 then ch :: bl else bl) n (step s c)
      | some '\n' => go f bl (n + 1) (step s c)
      | _ => (bl, n, c)
  let (bl, n, c') := go (s.size - c.i + 1) [] 0 c
  (String.ofList bl.reverse, n, c')

/-- Reads plain text starting at the cursor. In block context the text goes on over lines
indented at least `minCol`; `oneLine` keeps it to its first line. The cursor ends right
after the last character of the text. -/
def plainScalar (s : Array Char) (inFlow oneLine : Bool) (minCol : Nat) (c : Cur) : String × Cur :=
  let rec go : Nat → String → Cur → String × Cur
    | 0, acc, c => (acc, c)
    | f + 1, acc, c =>
      let (blanks, breaks, c') := plainGap s c
      let stop :=
        oneLine && breaks > 0 ||
        at? s c' = some '#' ||
        atDocMarker s c' ||
        (!inFlow && breaks > 0 && c'.col < minCol) ||
        blankz (at? s c') && at? s c' = none ||
        plainStops s c' inFlow ||
        (breaks = 0 && blanks = "")
      if stop then (acc, c)
      else
        let (run, c'') := plainRun s inFlow c'
        if run.isEmpty then (acc, c)
        else go f (acc ++ joinFolded blanks breaks ++ String.ofList run) c''
  let (first, c1) := plainRun s inFlow c
  go (s.size - c.i + 1) (String.ofList first) c1

/-- The value of a hexadecimal digit. -/
def hexValue (ch : Char) : Option Nat :=
  if '0' ≤ ch ∧ ch ≤ '9' then some (ch.toNat - 48)
  else if 'a' ≤ ch ∧ ch ≤ 'f' then some (ch.toNat - 87)
  else if 'A' ≤ ch ∧ ch ≤ 'F' then some (ch.toNat - 55)
  else none

/-- The character of an escape letter, for the letters that stand for one. -/
def escapeChar : Char → Option Char
  | '0' => some (Char.ofNat 0)
  | 'a' => some (Char.ofNat 7)
  | 'b' => some (Char.ofNat 8)
  | 't' | '\t' => some '\t'
  | 'n' => some '\n'
  | 'v' => some (Char.ofNat 11)
  | 'f' => some (Char.ofNat 12)
  | 'r' => some (Char.ofNat 13)
  | 'e' => some (Char.ofNat 27)
  | ' ' => some ' '
  | '"' => some '"'
  | '/' => some '/'
  | '\'' => some '\''
  | '\\' => some '\\'
  | 'N' => some (Char.ofNat 0x85)
  | '_' => some (Char.ofNat 0xA0)
  | 'L' => some (Char.ofNat 0x2028)
  | 'P' => some (Char.ofNat 0x2029)
  | _ => none

/-- Reads the hexadecimal code of an escape. -/
def hexCode (s : Array Char) (c : Cur) (len : Nat) : Option Nat :=
  (List.range len).foldl (fun acc k =>
    acc.bind fun v => (s[c.i + k]?.bind hexValue).map (v * 16 + ·)) (some 0)

/-- Reads a quoted scalar; the cursor is on its opening quote and ends after the closing one. -/
def quotedScalar (s : Array Char) (single : Bool) (start : Cur) : Except Problem (String × Cur) :=
  let quote := if single then '\'' else '"'
  -- reads the non-blank characters of one stretch; `joined` says an escaped break ended it
  let rec run : Nat → List Char → Cur → Except Problem (List Char × Cur × Bool)
    | 0, acc, c => .ok (acc, c, false)
    | f + 1, acc, c =>
      match at? s c with
      | none => .ok (acc, c, false)
      | some ch =>
        if blankz (some ch) then .ok (acc, c, false)
        else if single && ch = '\'' && ahead? s c 1 = some '\'' then run f ('\'' :: acc) (stepN s c 2)
        else if ch = quote then .ok (acc, c, false)
        else if !single && ch = '\\' && ahead? s c 1 = some '\n' then .ok (acc, stepN s c 2, true)
        else if !single && ch = '\\' then
          match ahead? s c 1 with
          | some 'x' | some 'u' | some 'U' =>
            let len := match ahead? s c 1 with
              | some 'x' => 2
              | some 'u' => 4
              | _ => 8
            match hexCode s (stepN s c 2) len with
            | none => .error ⟨true, start.row, c.row, "did not find expected hexdecimal number"⟩
            | some v =>
              if (0xD800 ≤ v ∧ v ≤ 0xDFFF) ∨ v > 0x10FFFF then
                .error ⟨true, start.row, c.row, "found invalid Unicode character escape code"⟩
              else run f (Char.ofNat v :: acc) (stepN s c (2 + len))
          | some e =>
            match escapeChar e with
            | some x => run f (x :: acc) (stepN s c 2)
            | none => .error ⟨true, start.row, c.row, "found unknown escape character"⟩
          | none => .error ⟨true, start.row, c.row, "found unexpected end of stream"⟩
        else run f (ch :: acc) (step s c)
  let rec loop : Nat → String → Cur → Except Problem (String × Cur)
    | 0, acc, c => .ok (acc, c)
    | f + 1, acc, c =>
      if atDocMarker s c then .error ⟨true, start.row, c.row, "found unexpected document indicator"⟩
      else if at? s c = none then .error ⟨true, start.row, c.row, "found unexpected end of stream"⟩
      else
        match run f [] c with
        | .error e => .error e
        | .ok (chars, c1, joined) =>
          let acc := acc ++ String.ofList chars.reverse
          if at? s c1 = some quote then .ok (acc, step s c1)
          else
            let (blanks, breaks, c2) := plainGap s c1
            let piece :=
              if joined then String.ofList (List.replicate (if breaks = 0 then 0 else breaks) '\n')
              else joinFolded blanks breaks
            loop f (acc ++ piece) c2
  loop (s.size - start.i + 1) "" (step s start)

/-- The indentation spaces and empty lines at the start of a block scalar's next stretch:
the line breaks met, the widest indentation seen, and where it stopped. -/
def blockBreaks (s : Array Char) (indent : Nat) (start c : Cur) :
    Except Problem (Nat × Nat × Cur) :=
  let rec go : Nat → Nat → Nat → Cur → Except Problem (Nat × Nat × Cur)
    | 0, n, w, c => .ok (n, w, c)
    | f + 1, n, w, c =>
      let c := (List.range (s.size - c.i + 1)).foldl (fun (c : Cur) _ =>
        if (indent = 0 || c.col < indent) && at? s c = some ' ' then step s c else c) c
      let w := max w c.col
      if (indent = 0 || c.col < indent) && at? s c = some '\t' then
        .error ⟨true, start.row, c.row, "found a tab character where an indentation space is expected"⟩
      else if at? s c = some '\n' then go f (n + 1) w (step s c)
      else .ok (n, w, c)
  go (s.size - c.i + 1) 0 0 c

/-- Reads a block scalar; the cursor is on `|` or `>`, `parent` is the indentation of the
enclosing block (-1 at the top). Gives the text, the comment on the header line, and the
cursor where the next content may start. -/
def blockScalar (s : Array Char) (parent : Int) (start : Cur) :
    Except Problem (String × ScalarStyle × String × Cur) :=
  let literal := at? s start = some '|'
  let c := step s start
  let sign (ch : Option Char) : Int := if ch = some '-' then -1 else if ch = some '+' then 1 else 0
  let digit (ch : Option Char) : Option Nat := ch.bind fun d =>
    if '0' ≤ d ∧ d ≤ '9' then some (d.toNat - 48) else none
  let (chomp, incr, c) :=
    if sign (at? s c) ≠ 0 then
      let ch := sign (at? s c)
      let c := step s c
      match digit (at? s c) with
      | some d => (ch, some d, step s c)
      | none => (ch, none, c)
    else
      match digit (at? s c) with
      | some d =>
        let c := step s c
        if sign (at? s c) ≠ 0 then (sign (at? s c), some d, step s c) else (0, some d, c)
      | none => (0, none, c)
  if incr = some 0 then .error ⟨true, start.row, c.row, "found an indentation indicator equal to 0"⟩
  else
    let c := skipBlanks s c
    let (comment, c) := if at? s c = some '#' then readToBreak s c else ("", c)
    if !breakz (at? s c) then
      .error ⟨true, start.row, c.row, "did not find expected comment or line break"⟩
    else
      let c := step s c
      let indent0 : Nat := match incr with
        | some d => if parent ≥ 0 then parent.toNat + d else d
        | none => 0
      match blockBreaks s indent0 start c with
      | .error e => .error e
      | .ok (breaks0, widest, c) =>
        let indent := if indent0 ≠ 0 then indent0 else max (max widest (parent + 1).toNat) 1
        -- text, leading break, trailing breaks, leading blank
        let rec lines : Nat → String → String → Nat → Bool → Cur →
            Except Problem (String × String × Nat × Cur)
          | 0, acc, lead, trail, _, c => .ok (acc, lead, trail, c)
          | f + 1, acc, lead, trail, leadBlank, c =>
            if c.col ≠ indent || at? s c = none then .ok (acc, lead, trail, c)
            else
              let trailBlank := (at? s c).any isBlank
              let acc :=
                if !literal && !leadBlank && !trailBlank && lead = "\n" then
                  (if trail = 0 then acc ++ " " else acc)
                else acc ++ lead
              let acc := acc ++ String.ofList (List.replicate trail '\n')
              let leadBlank := (at? s c).any isBlank
              let (text, c) := readToBreak s c
              let acc := acc ++ text
              let (lead, c) := if at? s c = some '\n' then ("\n", step s c) else ("", c)
              match blockBreaks s indent start c with
              | .error e => .error e
              | .ok (trail, _, c) => lines f acc lead trail leadBlank c
        match lines (s.size - c.i + 1) "" "" breaks0 false c with
        | .error e => .error e
        | .ok (acc, lead, trail, c) =>
          let acc := if chomp ≠ -1 then acc ++ lead else acc
          let acc := if chomp = 1 then acc ++ String.ofList (List.replicate trail '\n') else acc
          .ok (acc, if literal then .literal else .folded, comment, c)

end ConfigTables.Yaml
