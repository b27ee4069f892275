import ConfigTables.Yaml.Scalar
/-!
# Reading YAML structure

Collections come in two layouts. In block layout a mapping is a column of `key: value`
lines and a sequence a column of `- item` lines, nesting by indentation; a mapping's value
may be a sequence at the mapping's own column. In flow layout they are bracketed, `[a, b]`
and `{a: b}`, and may spread over lines freely.

A key in block layout is a scalar, alias or flow collection on one line, followed by `: `;
it may start a line or follow `- `, but not follow another key's colon on the same line
(`a: b: c` is refused). Anchors (`&name`) and tags (`!tag`) may stand before any node;
`*name` refers back to an anchored node.

Only the first document of a text is read; `---` starts a document and `...` or the next
`---` ends it. The comment lines stepped over are kept on the cursor so that they can be
placed on the tree afterwards; a comment after a value on its own line is placed at once.
-/

namespace ConfigTables.Yaml

/-- A scalar node read at a position. -/
def scalarAt (v : String) (st : ScalarStyle) (c : Cur) : Node :=
  ⟨.scalar, false, st, "", v, "", [], "", "", "", c.row + 1, c.col⟩

/-- The empty scalar of a missing value. -/
def emptyAt (c : Cur) : Node := scalarAt "" .plain c

/-- A collection node read at a position. -/
def collectionAt (k : Kind) (flow : Bool) (items : List Node) (c : Cur) : Node :=
  ⟨k, flow, .plain, "", "", "", items, "", "", "", c.row + 1, c.col⟩

/-- Reads an anchor or alias name: the characters up to a blank or flow indicator. -/
def readName (s : Array Char) (c : Cur) : String × Cur :=
  let rec go : Nat → List Char → Cur → List Char × Cur
    | 0, acc, c => (acc, c)
    | f + 1, acc, c =>
      match at? s c with
      | some ch => if blankz (some ch) || isFlowIndicator ch then (acc, c) else go f (ch :: acc) (step s c)
      | none => (acc, c)
  let (acc, c') := go (s.size - c.i + 1) [] c
  (String.ofList acc.reverse, c')

/-- Reads a tag: the characters up to a blank. -/
def readTag (s : Array Char) (c : Cur) : String × Cur :=
  let rec go : Nat → List Char → Cur → List Char × Cur
    | 0, acc, c => (acc, c)
    | f + 1, acc, c =>
      match at? s c with
      | some ch => if blankz (some ch) then (acc, c) else go f (ch :: acc) (step s c)
      | none => (acc, c)
  let (acc, c') := go (s.size - c.i + 1) [] c
  (String.ofList acc.reverse, c')

/-- Node properties: an anchor and a tag, in either order, each followed by blanks. -/
def readProps (s : Array Char) (c : Cur) : Except Problem (String × String × Cur) :=
  let one (anchor tag : String) (c : Cur) : Except Problem (String × String × Cur × Bool) :=
    match at? s c with
    | some '&' =>
      let (name, c') := readName s (step s c)
      if name = "" then .error ⟨true, c.row, c'.row, "did not find expected alphabetic or numeric character"⟩
      else .ok (name, tag, skipBlanks s c', true)
    | some '!' =>
      let (t, c') := readTag s c
      .ok (anchor, t, skipBlanks s c', true)
    | _ => .ok (anchor, tag, c, false)
  match one "" "" c with
  | .error e => .error e
  | .ok (a, t, c1, true) =>
    match one a t c1 with
    | .error e => .error e
    | .ok (a, t, c2, _) => .ok (a, t, c2)
  | .ok (a, t, c1, false) => .ok (a, t, c1)

/-- Puts properties on a node. -/
def withProps (n : Node) (anchor tag : String) : Node :=
  { n with anchor := if anchor = "" then n.anchor else anchor, tag := if tag = "" then n.tag else tag }

/-- Reads a comment standing after content, if the cursor is on one. -/
def lineComment (s : Array Char) (c : Cur) : String × Cur :=
  let c1 := skipBlanks s c
  if at? s c1 = some '#' then readToBreak s c1 else ("", c)

mutual

/-- Reads a node in flow layout; the cursor is on its first character. -/
def flowNode (fuel : Nat) (s : Array Char) (c : Cur) : Except Problem (Node × Cur) :=
  match fuel with
  | 0 => .error ⟨true, c.row, c.row, "found unexpected end of stream"⟩
  | f + 1 =>
    match readProps s c with
    | .error e => .error e
    | .ok (anchor, tag, c) =>
      let c := if anchor ≠ "" || tag ≠ "" then skipGap s c else c
      match at? s c with
      | some '[' =>
        match flowSequence f s c (step s c) [] true with
        | .error e => .error e
        | .ok (n, c') => .ok (withProps n anchor tag, c')
      | some '{' =>
        match flowMapping f s c (step s c) [] with
        | .error e => .error e
        | .ok (n, c') => .ok (withProps n anchor tag, c')
      | some '"' | some '\'' =>
        match quotedScalar s (at? s c = some '\'') c with
        | .error e => .error e
        | .ok (v, c') =>
          .ok (withProps (scalarAt v (if at? s c = some '\'' then .singleQuoted else .doubleQuoted) c) anchor tag, c')
      | some '*' =>
        let (name, c') := readName s (step s c)
        .ok (⟨.alias, false, .plain, "", name, "", [], "", "", "", c.row + 1, c.col⟩, c')
      | some ch =>
        if ch = ',' || ch = ']' || ch = '}' || ch = ':' then
          if anchor ≠ "" || tag ≠ "" then .ok (withProps (emptyAt c) anchor tag, c)
          else .error ⟨false, c.row, c.row, "did not find expected node content"⟩
        else if plainStart ch (ahead? s c 1) true then
          let (v, c') := plainScalar s true false 0 c
          .ok (withProps (scalarAt v .plain c) anchor tag, c')
        else .error (scanFault c "found character that cannot start any token")
      | none =>
        if anchor ≠ "" || tag ≠ "" then .ok (withProps (emptyAt c) anchor tag, c)
        else .error ⟨false, c.row, c.row, "did not find expected node content"⟩

/-- Reads the items of a flow sequence opened at `start`; `first` says no item was read. -/
def flowSequence (fuel : Nat) (s : Array Char) (start c : Cur) (acc : List Node) (first : Bool) :
    Except Problem (Node × Cur) :=
  match fuel with
  | 0 => .error ⟨true, c.row, c.row, "found unexpected end of stream"⟩
  | f + 1 =>
    let c := skipGap s c
    match at? s c with
    | some ']' => .ok (collectionAt .sequence true acc start, step s c)
    | _ =>
      let cont : Except Problem Cur :=
        if first then .ok c
        else if at? s c = some ',' then .ok (skipGap s (step s c))
        else .error (parseFault start c "did not find expected ',' or ']'")
      match cont with
      | .error e => .error e
      | .ok c =>
        if at? s c = some ']' then .ok (collectionAt .sequence true acc start, step s c)
        else
          match flowNode f s c with
          | .error e => .error e
          | .ok (item, c1) =>
            let c2 := skipGap s c1
            if at? s c2 = some ':' then
              let c3 := skipGap s (step s c2)
              let value : Except Problem (Node × Cur) :=
                if at? s c3 = some ',' || at? s c3 = some ']' then .ok (emptyAt c3, c3)
                else flowNode f s c3
              match value with
              | .error e => .error e
              | .ok (v, c4) =>
                let pair := collectionAt .mapping true [item, v] c
                flowSequence f s start c4 (acc ++ [pair]) false
            else flowSequence f s start c1 (acc ++ [item]) false

/-- Reads the entries of a flow mapping opened at `start`. -/
def flowMapping (fuel : Nat) (s : Array Char) (start c : Cur) (acc : List Node) :
    Except Problem (Node × Cur) :=
  match fuel with
  | 0 => .error ⟨true, c.row, c.row, "found unexpected end of stream"⟩
  | f + 1 =>
    let c := skipGap s c
    match at? s c with
    | some '}' => .ok (collectionAt .mapping true acc start, step s c)
    | _ =>
      let cont : Except Problem Cur :=
        if acc.isEmpty then .ok c
        else if at? s c = some ',' then .ok (skipGap s (step s c))
        else .error (parseFault start c "did not find expected ',' or '\x7d'")
      match cont with
      | .error e => .error e
      | .ok c =>
        if at? s c = some '}' then .ok (collectionAt .mapping true acc start, step s c)
        else
          let key : Except Problem (Node × Cur) :=
            if at? s c = some ':' then .ok (emptyAt c, c) else flowNode f s c
          match key with
          | .error e => .error e
          | .ok (k, c1) =>
            let c2 := skipGap s c1
            if at? s c2 = some ':' then
              let c3 := skipGap s (step s c2)
              let value : Except Problem (Node × Cur) :=
                if at? s c3 = some ',' || at? s c3 = some '}' then .ok (emptyAt c3, c3)
                else flowNode f s c3
              match value with
              | .error e => .error e
              | .ok (v, c4) => flowMapping f s start c4 (acc ++ [k, v])
            else flowMapping f s start c1 (acc ++ [k, emptyAt c1])

end

/-- Reads a key on one line followed by `: `, giving the key and the cursor after the colon;
none when the line holds no such key. -/
def simpleKey (s : Array Char) (c : Cur) : Option (Node × Cur) :=
  match readProps s c with
  | .error _ => none
  | .ok (anchor, tag, c1) =>
    let key : Option (Node × Cur) :=
      match at? s c1 with
      | some '"' | some '\'' =>
        match quotedScalar s (at? s c1 = some '\'') c1 with
        | .ok (v, c2) =>
          if c2.row = c1.row then
            some (scalarAt v (if at? s c1 = some '\'' then .singleQuoted else .doubleQuoted) c1, c2)
          else none
        | .error _ => none
      | some '[' | some '{' =>
        match flowNode (s.size + 1) s c1 with
        | .ok (n, c2) => if c2.row = c1.row then some (n, c2) else none
        | .error _ => none
      | some '*' =>
        let (name, c2) := readName s (step s c1)
        some (⟨.alias, false, .plain, "", name, "", [], "", "", "", c1.row + 1, c1.col⟩, c2)
      | some ch =>
        if plainStart ch (ahead? s c1 1) false then
          let (v, c2) := plainScalar s false true 0 c1
          some (scalarAt v .plain c1, c2)
        else none
      | none => none
    key.bind fun (k, c2) =>
      let c3 := skipBlanks s c2
      if at? s c3 = some ':' && blankz (ahead? s c3 1) then some (withProps k anchor tag, step s c3)
      else none

/-- Reads the value of a node in block layout standing where a key may not start: a block
scalar, a flow collection, a quoted or plain scalar, or an alias. `indent` is the column of
the enclosing block (-1 at the top). -/
def inlineValue (s : Array Char) (indent : Int) (c : Cur) : Except Problem (Node × Cur) :=
  match at? s c with
  | some '|' | some '>' =>
    match blockScalar s indent c with
    | .error e => .error e
    | .ok (v, st, comment, c') => .ok ({ scalarAt v st c with line := comment }, c')
  | some '[' | some '{' | some '"' | some '\'' | some '*' => flowNode (s.size + 1) s c
  | some ch =>
    if ch = '-' && blankz (ahead? s c 1) then
      .error (scanFault c "block sequence entries are not allowed in this context")
    else if plainStart ch (ahead? s c 1) false then
      let (v, c') := plainScalar s false false (indent + 1).toNat c
      .ok (scalarAt v .plain c, c')
    else .error (scanFault c "found character that cannot start any token")
  | none => .ok (emptyAt c, c)

/-- Whether a block sequence item starts at the cursor. -/
def atEntry (s : Array Char) (c : Cur) : Bool :=
  at? s c = some '-' && blankz (ahead? s c 1) && !atDocMarker s c

/-- Whether an explicit key (`? `) starts at the cursor. -/
def atKeyMark (s : Array Char) (c : Cur) : Bool :=
  at? s c = some '?' && blankz (ahead? s c 1)

/-- Whether a node is a collection in block layout. -/
def isBlockNode (n : Node) : Bool := (n.kind = .mapping || n.kind = .sequence) && !n.flow

/-- Whether the cursor is at the end of the document's content. -/
def atContentEnd (s : Array Char) (c : Cur) : Bool := at? s c = none || atDocMarker s c

/-- Checks what follows a value on its line: a comment, which is put on the value, or
nothing; a colon is a fault, and so is anything else (`what` names the indicator the
enclosing collection expects). -/
def endOfValueLine (s : Array Char) (start : Cur) (what : String) (v : Node) (c : Cur) :
    Except Problem (Node × Cur) :=
  if v.style = .literal || v.style = .folded then .ok (v, c)
  else
    let c1 := skipBlanks s c
    match at? s c1 with
    | none | some '\n' => .ok (v, c1)
    | some '#' =>
      let (txt, c2) := readToBreak s c1
      .ok ({ v with line := if v.line = "" then txt else v.line }, c2)
    | some ':' =>
      if blankz (ahead? s c1 1) then .error (scanFault c1 "mapping values are not allowed in this context")
      else .error (parseFault start c1 what)
    | _ => .error (parseFault start c1 what)

/-- The fault of a line of a block mapping that holds no key: a character that starts no
token, a token that cannot stand for a key (a closing bracket, a comma, a block scalar or a
bare colon), or a scalar or collection with no colon after it on its line. -/
def keyLineFault (s : Array Char) (start c : Cur) : Problem :=
  match at? s c with
  | some '@' | some '`' => scanFault c "found character that cannot start any token"
  | some ']' | some '}' | some ',' | some '|' | some '>' => parseFault start c "did not find expected key"
  | some ':' =>
    if blankz (ahead? s c 1) then parseFault start c "did not find expected key"
    else ⟨true, c.row, c.row, "could not find expected ':'"⟩
  | _ => ⟨true, c.row, c.row, "could not find expected ':'"⟩

mutual

/-- Reads a node in block layout whose first character is at the cursor. `indent` is the
column of the enclosing block (-1 at the top); `keyOk` says whether a mapping may start here. -/
def blockNode (fuel : Nat) (s : Array Char) (indent : Int) (keyOk : Bool) (c : Cur) :
    Except Problem (Node × Cur) :=
  match fuel with
  | 0 => .error ⟨true, c.row, c.row, "found unexpected end of stream"⟩
  | f + 1 =>
    if tabIndented s c then .error (scanFault c "found character that cannot start any token")
    else if atContentEnd s c then .ok (emptyAt c, c)
    else if atEntry s c then
      if keyOk then blockSequence f s c.col false c c []
      else .error (scanFault c "block sequence entries are not allowed in this context")
    else if atKeyMark s c then
      if keyOk then
        match explicitKey f s c.col c with
        | .error e => .error e
        | .ok (k, valued, after) => blockMapping f s c.col c k valued after []
      else .error (scanFault c "mapping keys are not allowed in this context")
    else
      match (if keyOk then simpleKey s c else none) with
      | some (k, after) => blockMapping f s c.col c k true after []
      | none =>
        match readProps s c with
        | .error e => .error e
        | .ok (anchor, tag, c1) =>
          if (anchor ≠ "" || tag ≠ "") && (breakz (at? s c1) || at? s c1 = some '#') then
            let (comment, c2) := lineComment s c1
            let c3 := skipGap s c2
            if atContentEnd s c3 || (c3.col : Int) ≤ indent then
              .ok ({ withProps (emptyAt c1) anchor tag with line := comment }, c3)
            else
              match blockNode f s indent true c3 with
              | .error e => .error e
              | .ok (n, c4) => .ok ({ withProps n anchor tag with line := if comment = "" then n.line else comment }, c4)
          else
            match inlineValue s indent c1 with
            | .error e => .error e
            | .ok (n, c2) => .ok (withProps n anchor tag, c2)

/-- Reads an explicit key (`? key`) of a block mapping at column `m`, the cursor on the
question mark. Gives the key, whether a value indicator (`:` at the mapping's column) follows
it, and the cursor after that indicator, or at the next content when there is none. -/
def explicitKey (fuel : Nat) (s : Array Char) (m : Nat) (c : Cur) : Except Problem (Node × Bool × Cur) :=
  match fuel with
  | 0 => .error ⟨true, c.row, c.row, "found unexpected end of stream"⟩
  | f + 1 =>
    let c1 := skipBlanks s (step s c)
    let key : Except Problem (Node × Cur) :=
      if breakz (at? s c1) || at? s c1 = some '#' then
        let (comment, c2) := lineComment s c1
        let c3 := skipGap s c2
        if !atContentEnd s c3 && c3.col > m then
          match blockNode f s m true c3 with
          | .error e => .error e
          | .ok (k, c4) => .ok ({ k with line := if comment = "" then k.line else comment }, c4)
        else .ok ({ emptyAt c1 with line := comment }, c3)
      else
        match blockNode f s m true c1 with
        | .error e => .error e
        | .ok (k, c2) =>
          if isBlockNode k then .ok (k, c2) else endOfValueLine s c "did not find expected key" k c2
    match key with
    | .error e => .error e
    | .ok (k, c2) =>
      let c3 := skipGap s c2
      if !atContentEnd s c3 && c3.col = m && at? s c3 = some ':' && blankz (ahead? s c3 1) then
        .ok (k, true, step s c3)
      else .ok (k, false, c3)

/-- Reads the rest of a block mapping at column `m` opened at `start`, from the cursor just
after the colon of key `k`; when `valued` is false the key has no value and the cursor is at
the content after it. -/
def blockMapping (fuel : Nat) (s : Array Char) (m : Nat) (start : Cur) (k : Node) (valued : Bool)
    (c : Cur) (acc : List Node) : Except Problem (Node × Cur) :=
  match fuel with
  | 0 => .error ⟨true, c.row, c.row, "found unexpected end of stream"⟩
  | f + 1 =>
    let c1 := skipBlanks s c
    let value : Except Problem (Node × Node × Cur) :=
      if !valued then .ok (k, emptyAt c, c)
      else if breakz (at? s c1) || at? s c1 = some '#' then
        let (comment, c2) := lineComment s c1
        let k := { k with line := comment }
        let c3 := skipGap s c2
        if atContentEnd s c3 then .ok (k, emptyAt c1, c3)
        else if c3.col > m then
          match blockNode f s m true c3 with
          | .error e => .error e
          | .ok (v, c4) => .ok (k, v, c4)
        else if c3.col = m && atEntry s c3 then
          match blockSequence f s m true c3 c3 [] with
          | .error e => .error e
          | .ok (v, c4) => .ok (k, v, c4)
        else .ok (k, emptyAt c1, c3)
      else
        match blockNode f s m false c1 with
        | .error e => .error e
        | .ok (v, c2) =>
          if isBlockNode v then .ok (k, v, c2)
          else
            match endOfValueLine s start "did not find expected key" v c2 with
            | .error e => .error e
            | .ok (v, c3) => .ok (k, v, c3)
    match value with
    | .error e => .error e
    | .ok (k, v, c2) =>
      let acc := acc ++ [k, v]
      let c3 := skipGap s c2
      let done := collectionAt .mapping false acc start
      if atContentEnd s c3 || c3.col < m then .ok (done, c3)
      else if c3.col > m || atEntry s c3 then .error (parseFault start c3 "did not find expected key")
      else if tabIndented s c3 then .error (scanFault c3 "found character that cannot start any token")
      else if atKeyMark s c3 then
        match explicitKey f s m c3 with
        | .error e => .error e
        | .ok (k2, valued2, after) => blockMapping f s m start k2 valued2 after acc
      else
        match simpleKey s c3 with
        | some (k2, after) => blockMapping f s m start k2 true after acc
        | none => .error (keyLineFault s start c3)

/-- Reads a block sequence at column `m` opened at `start`, from the cursor on an item's
dash. An indentless sequence (the value of a mapping at the mapping's column) ends quietly at
a line that is no item. -/
def blockSequence (fuel : Nat) (s : Array Char) (m : Nat) (indentless : Bool) (start c : Cur)
    (acc : List Node) : Except Problem (Node × Cur) :=
  match fuel with
  | 0 => .error ⟨true, c.row, c.row, "found unexpected end of stream"⟩
  | f + 1 =>
    let c1 := skipBlanks s (step s c)
    let item : Except Problem (Node × Cur) :=
      if breakz (at? s c1) || at? s c1 = some '#' then
        let (comment, c2) := lineComment s c1
        let c3 := skipGap s c2
        if !atContentEnd s c3 && c3.col > m then
          match blockNode f s m true c3 with
          | .error e => .error e
          | .ok (v, c4) => .ok ({ v with line := if comment = "" then v.line else comment }, c4)
        else .ok ({ emptyAt c1 with line := comment }, c3)
      else
        match blockNode f s m true c1 with
        | .error e => .error e
        | .ok (v, c2) =>
          if isBlockNode v then .ok (v, c2)
          else endOfValueLine s start "did not find expected '-' indicator" v c2
    match item with
    | .error e => .error e
    | .ok (v, c2) =>
      let acc := acc ++ [{ v with row := c.row + 1, col := c.col }]
      let c3 := skipGap s c2
      let done := collectionAt .sequence false acc start
      if atContentEnd s c3 || c3.col < m then .ok (done, c3)
      else if c3.col = m && atEntry s c3 then blockSequence f s m indentless start c3 acc
      else if c3.col = m && indentless then .ok (done, c3)
      else .error (parseFault start c3 "did not find expected '-' indicator")

end

/-! ## Directives -/

/-- Whether a character may stand in a directive name or a tag handle. -/
def isWordChar (ch : Char) : Bool := ch.isAlphanum || ch = '_' || ch = '-'

/-- Whether a character may stand in a tag prefix. -/
def isUriChar (ch : Char) : Bool :=
  isWordChar ch || ";/?:@&=+$,.!~*'()[]%".toList.contains ch

/-- Reads the characters of a class at the cursor, on one line. -/
def readWhile (s : Array Char) (p : Char → Bool) (c : Cur) : String × Cur :=
  let rec go : Nat → List Char → Cur → List Char × Cur
    | 0, acc, c => (acc, c)
    | f + 1, acc, c =>
      match at? s c with
      | some ch => if ch ≠ '\n' && p ch then go f (ch :: acc) (step s c) else (acc, c)
      | none => (acc, c)
  let (acc, c') := go (s.size - c.i + 1) [] c
  (String.ofList acc.reverse, c')

/-- The `%TAG` handles and prefixes of the directives before a document, and whether a
`%YAML` directive or any directive was read. -/
structure Directives where
  tags : List (String × String)
  version : Bool
  any : Bool

/-- Checks what follows a directive's value on its line: blanks and a comment at most. -/
def directiveEnd (s : Array Char) (start c : Cur) : Except Problem Cur :=
  let c1 := skipBlanks s c
  let c2 := if at? s c1 = some '#' then (readToBreak s c1).2 else c1
  if breakz (at? s c2) then .ok c2
  else .error ⟨true, start.row, c2.row, "did not find expected comment or line break"⟩

/-- Reads the version of a `%YAML` directive, `major.minor`, after the name. -/
def versionValue (s : Array Char) (start c : Cur) : Except Problem (Nat × Nat × Cur) :=
  let number (c : Cur) : Except Problem (Nat × Cur) :=
    let (ds, c') := readWhile s Char.isDigit c
    if ds.isEmpty then .error ⟨true, start.row, c.row, "did not find expected version number"⟩
    else if ds.length > 2 then .error ⟨true, start.row, c.row, "found extremely long version number"⟩
    else .ok (ds.foldl (fun n d => n * 10 + (d.toNat - 48)) 0, c')
  match number (skipBlanks s c) with
  | .error e => .error e
  | .ok (major, c1) =>
    if at? s c1 ≠ some '.' then
      .error ⟨true, start.row, c1.row, "did not find expected digit or '.' character"⟩
    else
      match number (step s c1) with
      | .error e => .error e
      | .ok (minor, c2) => .ok (major, minor, c2)

/-- Reads the handle and prefix of a `%TAG` directive after the name. -/
def tagValue (s : Array Char) (start c : Cur) : Except Problem (String × String × Cur) :=
  let c1 := skipBlanks s c
  let fault (c : Cur) (m : String) : Except Problem (String × String × Cur) :=
    .error ⟨true, start.row, c.row, m⟩
  if at? s c1 ≠ some '!' then fault c1 "did not find expected '!'"
  else
    let (name, c2) := readWhile s isWordChar (step s c1)
    let (handle, c3) :=
      if at? s c2 = some '!' then ("!" ++ name ++ "!", step s c2) else ("!" ++ name, c2)
    if handle ≠ "!" && !handle.endsWith "!" then fault c3 "did not find expected '!'"
    else if !(at? s c3).any isBlank then fault c3 "did not find expected whitespace"
    else
      let (pre, c4) := readWhile s isUriChar (skipBlanks s c3)
      if pre.isEmpty then fault c4 "did not find expected tag URI"
      else if !blankz (at? s c4) then fault c4 "did not find expected whitespace or line break"
      else .ok (handle, pre, c4)

/-- Reads the directive lines (`%YAML`, `%TAG`) before a document and the gaps around them.
A second `%YAML` directive, a version other than 1.1, a handle given twice and an unknown
directive name are faults. -/
def readDirectives (s : Array Char) (c : Cur) : Except Problem (Directives × Cur) :=
  let rec go : Nat → Directives → Cur → Except Problem (Directives × Cur)
    | 0, d, c => .ok (d, c)
    | f + 1, d, c =>
      let c := skipGap s c
      if !(c.col = 0 && at? s c = some '%') then .ok (d, c)
      else
        let (name, c1) := readWhile s isWordChar (step s c)
        if name.isEmpty then .error ⟨true, c.row, c1.row, "could not find expected directive name"⟩
        else if !blankz (at? s c1) then
          .error ⟨true, c.row, c1.row, "found unexpected non-alphabetical character"⟩
        else if name = "YAML" then
          match versionValue s c c1 with
          | .error e => .error e
          | .ok (major, minor, c2) =>
            match directiveEnd s c c2 with
            | .error e => .error e
            | .ok c3 =>
              if d.version then .error ⟨false, 0, c.row, "found duplicate %YAML directive"⟩
              else if major ≠ 1 || minor ≠ 1 then .error ⟨false, 0, c.row, "found incompatible YAML document"⟩
              else go f { d with version := true, any := true } c3
        else if name = "TAG" then
          match tagValue s c c1 with
          | .error e => .error e
          | .ok (handle, pre, c2) =>
            match directiveEnd s c c2 with
            | .error e => .error e
            | .ok c3 =>
              if (d.tags.lookup handle).isSome then
                .error ⟨false, 0, c.row, "found duplicate %TAG directive"⟩
              else go f { d with tags := d.tags ++ [(handle, pre)], any := true } c3
        else .error ⟨true, c.row, c1.row, "found unknown directive name"⟩
  go (s.size + 1) ⟨[], false, false⟩ c

/-- Reads the first document of a text: its content node and the cursor after it, with the
comments stepped over, or none for a text without a document; and the `%TAG` directives
before it. Directives must be followed by `---`; a text whose first token ends a document
(`...`) has no node where one is expected. -/
def readFirst (s : Array Char) : Except Problem (Option (Node × Cur) × List (String × String)) :=
  match readDirectives s Cur.start with
  | .error e => .error e
  | .ok (d, c) =>
    let explicit := atDocMarker s c && at? s c = some '-'
    if d.any && !explicit then .error ⟨false, 0, c.row, "did not find expected <document start>"⟩
    else if at? s c = none then .ok (none, d.tags)
    else if explicit then
      let c1 := skipBlanks s (stepN s c 3)
      if breakz (at? s c1) || at? s c1 = some '#' then
        let c2 := skipGap s c1
        if atContentEnd s c2 then .ok (some (emptyAt c2, c2), d.tags)
        else (blockNode (s.size + 1) s (-1) true c2).map fun r => (some r, d.tags)
      else (blockNode (s.size + 1) s (-1) false c1).map fun r => (some r, d.tags)
    else if atDocMarker s c then .error ⟨false, c.row, c.row, "did not find expected node content"⟩
    else (blockNode (s.size + 1) s (-1) true c).map fun r => (some r, d.tags)

/-! ## Tags -/

/-- The handle and suffix of a tag as written: `!!suffix`, `!name!suffix` or `!suffix`. -/
def tagParts (t : String) : String × String :=
  let rest := (t.drop 1).toString.toList
  let name := rest.takeWhile isWordChar
  match rest.drop name.length with
  | '!' :: after => ("!" ++ String.ofList name ++ "!", String.ofList after)
  | _ => ("!", String.ofList rest)

/-- The tag a tag as written stands for, in the form it is written back in: a tag of the
core schema as `!!name`, a local tag as `!name`, any other in verbatim form `!<tag>`; the
empty text for no tag or the non-specific tag `!`. The handles are those of the document's
directives, then `!` and `!!`. -/
def resolveTag (dirs : List (String × String)) (t : String) : Except String String :=
  let full : Except String String :=
    if t = "" then .ok ""
    else if t.startsWith "!<" && t.endsWith ">" then .ok ((t.drop 2).dropEnd 1).toString
    else
      let (handle, suffix) := tagParts t
      if handle = "!" && suffix = "" then .ok ""
      else
        match (dirs ++ [("!", "!"), ("!!", "tag:yaml.org,2002:")]).lookup handle with
        | some pre => .ok (pre ++ suffix)
        | none => .error "found undefined tag handle"
  full.map fun f =>
    let core := "tag:yaml.org,2002:"
    let short := if f.startsWith core then "!!" ++ (f.drop core.length).toString else f
    if short = "" || short.startsWith "!" then short else "!<" ++ short ++ ">"

end ConfigTables.Yaml
