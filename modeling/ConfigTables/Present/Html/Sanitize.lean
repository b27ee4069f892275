import ConfigTables.Present.Html.References
import ConfigTables.Text.Chars
/-!
# The text HTML shows once its markup is taken out

HTML is cut into pieces the way a browser's tokenizer cuts it, and only the text of the
pieces is kept, as a sanitizer that allows no element keeps it:

* Text runs up to a `<` that starts markup: `<` and a letter starts a tag, `</` an end tag,
  `<!` a comment or declaration and `<?` a processing instruction; any other `<` is text.
  Text has its line breaks made line feeds and its character references decoded.
* A tag ends at the first `>` that is not inside a quoted attribute value; a tag that does
  not end before the end of the text ends the pieces, and nothing after it is kept.
* `<!--` opens a comment that ends at `-->` (or `--!>`, or right away at `>` or `->`). Other
  markup after `<!`, `<?`, or `</` with no letter after it, ends at the next `>`. `</>` is
  empty markup, and a `</` that ends the text is text.
* After the start tag of `iframe`, `noembed`, `noframes`, `noscript`, `script`, `style`,
  `textarea`, `title` or `xmp`, the text up to the matching end tag is read as it stands
  (references are decoded only in `textarea` and `title`); after `plaintext`, all the rest
  is such text.

The text of `script` and `style` elements is dropped while one of them is the most recent
start tag not yet closed by its own end tag; the text inside `frame`, `frameset`, `iframe`,
`noembed`, `noframes`, `noscript`, `nostyle`, `object`, `script`, `style` and `title`
elements is dropped while more of their start tags than end tags have been seen. What is
shown is the kept text with white space trimmed at both ends.
-/

namespace ConfigTables.Present.Html

/-- A piece of HTML as a tokenizer cuts it. -/
inductive Piece where
  /-- Text, as it reads once decoded. -/
  | text (s : String)
  /-- A start tag by its lower-case name, and whether it closes itself (`<br/>`). -/
  | startTag (name : String) (selfClosing : Bool)
  /-- An end tag by its lower-case name. -/
  | endTag (name : String)
  /-- A comment, a declaration, a processing instruction or empty markup: nothing shows. -/
  | markup
  deriving Repr, Inhabited

/-- The blanks that separate the parts of a tag. -/
def isTagBlank (c : Char) : Bool := c = ' ' || c = '\n' || c = '\r' || c = '\t' || c = '\x0c'

/-- An ASCII letter. -/
def isLetter (c : Char) : Bool := ('a' ≤ c && c ≤ 'z') || ('A' ≤ c && c ≤ 'Z')

/-- ASCII letters made lower case. -/
def lowerAscii (cs : List Char) : String :=
  String.ofList (cs.map fun c => if 'A' ≤ c && c ≤ 'Z' then Char.ofNat (c.toNat + 32) else c)

/-- Line breaks made line feeds: a carriage return and line feed, or a lone carriage
return. -/
def unifyBreaks : List Char → List Char
  | '\r' :: '\n' :: rest => '\n' :: unifyBreaks rest
  | '\r' :: rest => '\n' :: unifyBreaks rest
  | c :: rest => c :: unifyBreaks rest
  | [] => []

/-- How many characters of text come before the first `<` that starts markup. -/
def textLength : List Char → Nat
  | '<' :: c :: rest =>
    if isLetter c || c = '/' || c = '!' || c = '?' then 0 else 1 + textLength (c :: rest)
  | _ :: rest => 1 + textLength rest
  | [] => 0

/-- The rest of an attribute name: up to a blank, `/`, `>` or `=`, a leading `=` taken as
part of the name. -/
def skipAttrName : List Char → List Char
  | '=' :: rest => rest.dropWhile fun c => !(isTagBlank c || c = '/' || c = '>' || c = '=')
  | cs => cs.dropWhile fun c => !(isTagBlank c || c = '/' || c = '>' || c = '=')

/-- The rest of an attribute after its name: a `/` is taken alone; `=` and a value in
quotes, or a value up to a blank (taken) or `>` (left). -/
def skipAttrValue (cs : List Char) : List Char :=
  match cs.dropWhile isTagBlank with
  | '/' :: rest => rest
  | '=' :: rest =>
    match rest.dropWhile isTagBlank with
    | [] => []
    | '>' :: more => '>' :: more
    | q :: more =>
      if q = '"' || q = '\'' then (more.dropWhile (· ≠ q)).drop 1
      else
        match more.dropWhile fun c => !(isTagBlank c || c = '>') with
        | c :: after => if isTagBlank c then after else c :: after
        | [] => []
  | other => other

/-- The attributes of a tag up to and past its closing `>`: the text after the tag, or none
when the text ends first. The fuel bounds the attributes. -/
def skipAttrs : Nat → List Char → Option (List Char)
  | 0, _ => none
  | fuel + 1, cs =>
    match cs.dropWhile isTagBlank with
    | [] => none
    | '>' :: rest => some rest
    | rest => skipAttrs fuel (skipAttrValue (skipAttrName rest))

/-- A tag from its name on: its name, whether it closes itself, and the text after it; none
when the text ends inside it. -/
def readTag (cs : List Char) : Option (List Char × Bool × List Char) := do
  let name := cs.takeWhile fun c => !(isTagBlank c || c = '/' || c = '>')
  let after ← skipAttrs (cs.length + 1) (cs.drop name.length)
  let tag := cs.take (cs.length - after.length)
  pure (name, tag.dropLast.getLast? = some '/', after)

/-- The text after the next `>`, or none when there is none. -/
def pastAngle (cs : List Char) : List Char := (cs.dropWhile (· ≠ '>')).drop 1

/-- The text after a comment's opening `<!--`: past its end, or empty when it does not
end. `dashes` counts the dashes just read; `fresh` says nothing else was read yet. -/
def pastComment : List Char → Nat → Bool → List Char
  | [], _, _ => []
  | '-' :: rest, dashes, fresh => pastComment rest (dashes + 1) fresh
  | '>' :: rest, dashes, fresh =>
    if dashes ≥ 2 || fresh then rest else pastComment rest 0 false
  | '!' :: rest, dashes, _ =>
    if dashes ≥ 2 then
      match rest with
      | [] => []
      | '>' :: more => more
      | '-' :: more => pastComment more 1 false
      | _ :: more => pastComment more 0 false
    else pastComment rest 0 false
  | _ :: rest, _, _ => pastComment rest 0 false

/-- The elements whose text is read as it stands up to their end tag. -/
def rawTextTags : List String :=
  ["iframe", "noembed", "noframes", "noscript", "plaintext", "script", "style", "textarea",
    "title", "xmp"]

/-- Whether an element's end tag starts a text: `</`, the name in any case, and a blank,
`/` or `>`. -/
def endTagAt (name : String) (cs : List Char) : Bool :=
  match cs with
  | '<' :: '/' :: rest =>
    lowerAscii (rest.take name.length) = name &&
      match (rest.drop name.length).head? with
      | some c => isTagBlank c || c = '/' || c = '>'
      | none => false
  | _ => false

/-- How many characters of raw text come before an element's end tag (all when it has
none). -/
def rawLength (name : String) : List Char → Nat
  | [] => 0
  | c :: rest => if endTagAt name (c :: rest) then 0 else 1 + rawLength name rest

/-- Text as it reads in a piece: line breaks unified, references decoded unless raw. -/
def textPiece (raw : Bool) (cs : List Char) : Piece :=
  let cs := unifyBreaks cs
  .text (String.ofList (if raw then cs else unescapeChars cs))

/-- Cuts HTML into pieces; `raw` names the element whose raw text comes next, if any. The
fuel bounds the pieces. -/
def piecesFrom : Nat → Option String → List Char → List Piece
  | 0, _, _ => []
  | fuel + 1, some "plaintext", cs => if cs.isEmpty then [] else [textPiece true cs]
  | fuel + 1, some name, cs =>
    let n := rawLength name cs
    (if n = 0 then [] else [textPiece (name ≠ "textarea" && name ≠ "title") (cs.take n)]) ++
      piecesFrom fuel none (cs.drop n)
  | fuel + 1, none, cs =>
    let n := textLength cs
    if n > 0 then textPiece false (cs.take n) :: piecesFrom fuel none (cs.drop n)
    else
      match cs with
      | '<' :: '/' :: rest =>
        match rest with
        | [] => [textPiece false ['<', '/']]
        | '>' :: more => .markup :: piecesFrom fuel none more
        | c :: _ =>
          if isLetter c then
            match readTag rest with
            | some (name, _, after) => .endTag (lowerAscii name) :: piecesFrom fuel none after
            | none => []
          else .markup :: piecesFrom fuel none (pastAngle rest)
      | '<' :: '!' :: '-' :: '-' :: rest => .markup :: piecesFrom fuel none (pastComment rest 0 true)
      | '<' :: '!' :: rest => .markup :: piecesFrom fuel none (pastAngle rest)
      | '<' :: '?' :: rest => .markup :: piecesFrom fuel none (pastAngle rest)
      | '<' :: rest =>
        match readTag rest with
        | some (name, closes, after) =>
          let name := lowerAscii name
          .startTag name closes :: piecesFrom fuel (if rawTextTags.contains name then some name else none) after
        | none => []
      | _ => []

/-- HTML cut into pieces. -/
def pieces (s : String) : List Piece := piecesFrom (s.length + 1) none s.toList

/-- The elements whose content a sanitizer drops. -/
def hiddenTags : List String :=
  ["frame", "frameset", "iframe", "noembed", "noframes", "noscript", "nostyle", "object",
    "script", "style", "title"]

/-- What a sanitizer knows while it reads pieces: whether content is being dropped, how many
more hidden elements were opened than closed, and the most recent start tag not yet closed
by its own end tag. -/
structure Reading where
  muted : Bool
  depth : Int
  recent : String

/-- A reading after a piece. -/
def Reading.after (r : Reading) : Piece → Reading
  | .startTag name false =>
    if name = "script" || name = "style" then { r with recent := name }
    else if hiddenTags.contains name then ⟨true, r.depth + 1, name⟩
    else { r with recent := name }
  | .endTag name =>
    let recent := if r.recent = name then "" else r.recent
    if name = "script" || name = "style" || !hiddenTags.contains name then { r with recent := recent }
    else
      let depth := r.depth - 1
      ⟨if depth = 0 then false else r.muted, depth, recent⟩
  | _ => r

/-- The text a piece shows in a reading. -/
def Reading.shows (r : Reading) : Piece → String
  | .text s => if r.muted || r.recent = "script" || r.recent = "style" then "" else s
  | _ => ""

/-- The text shown by pieces read from a reading. -/
def shownText : Reading → List Piece → String
  | _, [] => ""
  | r, p :: rest => r.shows p ++ shownText (r.after p) rest

/-- The text HTML shows once its markup is taken out, trimmed of white space. -/
def sanitize (s : String) : String :=
  Text.Blank.trim (shownText ⟨false, 0, ""⟩ (pieces s))

end ConfigTables.Present.Html
