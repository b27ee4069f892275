import ConfigTables.Text.CaseMap
/-!
# Inline Markdown nodes

The inline content of a block is a list of nodes: text, emphasis (single or strong), struck
text, code spans, links and images, automatic links and inline HTML. This module holds the
nodes and the scanners that recognise the pieces of text that become single nodes:

* An address or mail address between `<` and `>` is an automatic link. So is a bare
  `http://`, `https://` or `ftp://` address, a `www.` address or a mail address, less the
  closing punctuation that ends a sentence.
* Other text between `<` and `>` that reads as an HTML tag, comment, processing
  instruction, declaration or CDATA section is inline HTML.
* Link labels compare with their blanks collapsed and their case folded.

It also holds the classes of characters that reading inline text turns on: ASCII
punctuation and blanks, which start or end its constructs, and the Unicode punctuation,
symbols and white space that decide how a run of emphasis characters flanks the text.
-/

namespace ConfigTables.Present.Markdown

/-- An inline node. -/
inductive Inline where
  /-- Text, and whether a line break follows it. -/
  | text (s : String) (lineBreak : Bool)
  | emph (strong : Bool) (children : List Inline)
  | strike (children : List Inline)
  | code (s : String)
  | link (children : List Inline) (url : String)
  /-- An address shown as a link: its text, its target, and whether it is a mail address. -/
  | autolink (label : String) (url : String) (email : Bool)
  /-- Inline HTML as written: a tag, a comment or a declaration, which shows nothing. -/
  | html (raw : String)
  | image (alt : String) (url : String)
  deriving Repr, Inhabited

mutual

/-- The text of an inline node without its markup: the text of its parts, an image's
alternative text, inline HTML as written. Line breaks are left out. -/
def Inline.plain : Inline → String
  | .text s _ => s
  | .emph _ children => Inline.plainAll children
  | .strike children => Inline.plainAll children
  | .code s => s
  | .link children _ => Inline.plainAll children
  | .autolink label _ _ => label
  | .html raw => raw
  | .image alt _ => alt

/-- The text of inline nodes without their markup. -/
def Inline.plainAll : List Inline → String
  | [] => ""
  | n :: rest => n.plain ++ Inline.plainAll rest

end

/-! ## Classes of characters -/

/-- ASCII punctuation. -/
def isPunct (c : Char) : Bool := "!\"#$%&'()*+,-./:;<=>?@[\\]^_`\x7b|\x7d~".toList.contains c

/-- An ASCII blank or line break: space, tab, line feed, vertical tab, form feed or
carriage return. -/
def isAsciiSpace (c : Char) : Bool :=
  c = ' ' || c = '\t' || c = '\n' || c = '\x0b' || c = '\x0c' || c = '\r'

/-- White space in Unicode: the ASCII blanks and line breaks, the next line and no-break
space characters, the ogham space, the spaces and separators of the general punctuation
block and the ideographic space. -/
def isUnicodeSpace (c : Char) : Bool :=
  let n := c.toNat
  isAsciiSpace c || n = 0x85 || n = 0xA0 || n = 0x1680 || (0x2000 ≤ n && n ≤ 0x200A) ||
    n = 0x2028 || n = 0x2029 || n = 0x202F || n = 0x205F || n = 0x3000

/-- The code point ranges of punctuation and symbols beyond ASCII: those of the Latin-1
supplement, the spacing modifiers, Greek, general punctuation, super- and subscript signs,
currency, the blocks of arrows, mathematical operators, technical symbols, box drawing,
shapes, dingbats and their mathematical and arrow supplements (enclosed digits left out),
supplemental punctuation, CJK punctuation, fullwidth forms and the pictographic planes. -/
def punctRanges : List (Nat × Nat) :=
  [(0xA1, 0xA9), (0xAB, 0xAC), (0xAE, 0xB1), (0xB4, 0xB4), (0xB6, 0xB8), (0xBB, 0xBB),
    (0xBF, 0xBF), (0xD7, 0xD7), (0xF7, 0xF7), (0x2C2, 0x2C5), (0x2D2, 0x2DF), (0x2E5, 0x2EB),
    (0x2ED, 0x2ED), (0x2EF, 0x2FF), (0x375, 0x375), (0x37E, 0x37E), (0x384, 0x385),
    (0x387, 0x387), (0x2010, 0x2027), (0x2030, 0x205E), (0x207A, 0x207E), (0x208A, 0x208E),
    (0x20A0, 0x20C0), (0x2190, 0x245F), (0x249C, 0x24E9), (0x2500, 0x2775), (0x2794, 0x2BFF),
    (0x2E00, 0x2E2E), (0x2E30, 0x2E5D), (0x3001, 0x3003), (0x3008, 0x3020), (0x3030, 0x3030),
    (0x3036, 0x3037), (0x303D, 0x303F), (0x309B, 0x309C), (0x30A0, 0x30A0), (0x30FB, 0x30FB),
    (0xFF01, 0xFF0F), (0xFF1A, 0xFF20), (0xFF3B, 0xFF40), (0xFF5B, 0xFF65), (0xFFE0, 0xFFE6),
    (0xFFE8, 0xFFEE), (0x1F000, 0x1F0FF), (0x1F10D, 0x1F1AD), (0x1F1E6, 0x1F2FF),
    (0x1F300, 0x1FAFF), (0x1FB00, 0x1FBCA)]

/-- Punctuation or a symbol in Unicode. -/
def isUnicodePunct (c : Char) : Bool :=
  isPunct c || punctRanges.any fun (lo, hi) => lo ≤ c.toNat && c.toNat ≤ hi

/-- A blank inside an HTML tag, a line feed included. -/
def isTagGap (c : Char) : Bool := c = ' ' || c = '\t' || c = '\n'

/-! ## Addresses and HTML in text -/

/-- A character of the user part of a mail address. -/
def isMailUserChar (c : Char) : Bool :=
  c.isAlphanum || ".!#$%&'*+/=?^_`\x7b|\x7d~-".toList.contains c

/-- The length of a domain label at the start: letters, digits and hyphens, at most 63,
the first and the last a letter or digit. -/
def domainLabelLength (cs : List Char) : Option Nat :=
  match cs with
  | c :: _ =>
    if c.isAlphanum then
      let run := (cs.takeWhile fun d => d.isAlphanum || d = '-').take 63
      some (run.length - (run.reverse.takeWhile (· = '-')).length)
    else none
  | [] => none

/-- The length of the labels after the first one of a domain, each after a dot. -/
def dottedLabels : Nat → List Char → Nat
  | 0, _ => 0
  | fuel + 1, '.' :: rest =>
    match domainLabelLength rest with
    | some n => 1 + n + dottedLabels fuel (rest.drop n)
    | none => 0
  | _, _ => 0

/-- The length of a mail address at the start: a user part, `@`, and a domain of at least
two labels. -/
def mailLength (cs : List Char) : Option Nat :=
  let user := cs.takeWhile isMailUserChar
  if user.isEmpty then none
  else
    match cs.drop user.length with
    | '@' :: rest =>
      match domainLabelLength rest with
      | some n =>
        let m := dottedLabels rest.length (rest.drop n)
        if m = 0 then none else some (user.length + 1 + n + m)
      | none => none
    | _ => none

/-- The length of an address with a scheme at the start: a scheme of 2 to 32 letters,
digits, `+`, `.` or `-` starting with a letter, a colon, and characters other than blanks,
control characters, `<` and `>`. -/
def schemeAddressLength (cs : List Char) : Option Nat :=
  match cs with
  | c :: _ =>
    if c.isAlpha then
      let scheme := cs.takeWhile fun d => d.isAlphanum || d = '+' || d = '.' || d = '-'
      if scheme.length < 2 || scheme.length > 32 then none
      else
        match cs.drop scheme.length with
        | ':' :: rest =>
          some (scheme.length + 1 +
            (rest.takeWhile fun d => d.toNat > 0x20 && d.toNat ≠ 0x7F && d ≠ '<' && d ≠ '>').length)
        | _ => none
    else none
  | [] => none

/-- An address in angle brackets after its `<`: a mail address or one with a scheme, and the
text after the `>`. -/
def autolink? (cs : List Char) : Option (Inline × List Char) :=
  let closed := fun (n : Nat) (email : Bool) =>
    if (cs.drop n).head? = some '>' then
      let t := String.ofList (cs.take n)
      some (Inline.autolink t t email, cs.drop (n + 1))
    else none
  match mailLength cs with
  | some n => closed n true
  | none =>
    match schemeAddressLength cs with
    | some n => closed n false
    | none => none

/-- A character of the host part of a bare address. -/
def isHostChar (c : Char) : Bool := c.isAlphanum || "-@:%._+~#=".toList.contains c

/-- A character of the path part of a bare address; `$` only after a scheme. -/
def isPathChar (www : Bool) (c : Char) : Bool :=
  c.isAlphanum || "-@:%_+.~#!?&/=();,'\">^\x7b\x7d[]`".toList.contains c || (!www && c = '$')

/-- A lower-case letter. -/
def isLowerChar (c : Char) : Bool := 'a' ≤ c && c ≤ 'z'

/-- The length of a bare address after its scheme (or `www.`): a host of 1 to 256
characters ending in a dot and lower-case letters, the longest such, then (after a scheme) a
port, then a path after `/`, `#` or `?`. -/
def addressBodyLength (www : Bool) (cs : List Char) : Option Nat :=
  let host := cs.takeWhile isHostChar
  let dot := (List.range (min 256 host.length)).reverse.find? fun k =>
    k ≥ 1 && cs[k]? = some '.' && (cs[k + 1]?).any isLowerChar
  match dot with
  | none => none
  | some k =>
    let n := k + 1 + ((cs.drop (k + 1)).takeWhile isLowerChar).length
    let n := match www, cs.drop n with
      | false, ':' :: rest =>
        let ds := rest.takeWhile Char.isDigit
        if ds.isEmpty then n else n + 1 + ds.length
      | _, _ => n
    match cs.drop n with
    | c :: rest =>
      if c = '/' || c = '#' || c = '?' then some (n + 1 + (rest.takeWhile (isPathChar www)).length)
      else some n
    | [] => some n

/-- The end of a bare address of length `n` after its closing characters are worked out: a
closing dot is left out, closing parentheses that open nowhere in it are left out, and so is
a closing character reference (`&amp;`). -/
def addressEnd (cs : List Char) (n : Nat) : Nat :=
  let m := cs.take n
  match m.getLast? with
  | some '.' => n - 1
  | some ')' =>
    let closing := (m.filter (· = ')')).length - (m.filter (· = '(')).length
    n - closing
  | some ';' =>
    let name := m.dropLast.reverse.takeWhile Char.isAlphanum
    if !name.isEmpty && (m.dropLast.reverse.drop name.length).head? = some '&' then n - name.length - 2 else n
  | _ => n

/-- A length less the trailing characters `?!.,:*_~` (never the first). -/
def trimTrailing (cs : List Char) (n : Nat) : Nat :=
  let m := cs.take n
  let strip := ((m.drop 1).reverse.takeWhile fun c => "?!.,:*_~".toList.contains c).length
  n - strip

/-- A bare address at the start of text: a web address (`http://`, `https://`, `ftp://`,
or `www.`, which links to `http://`) or a mail address; its node and length. -/
def bareAddress? (cs : List Char) : Option (Inline × Nat) :=
  let scheme := ["http://", "https://", "ftp://"].find? fun p => cs.take p.length == p.toList
  let web : Option (Nat × String) :=
    match scheme with
    | some p => (addressBodyLength false (cs.drop p.length)).map fun n => (p.length + n, "")
    | none =>
      if cs.take 4 == "www.".toList then
        (addressBodyLength true (cs.drop 4)).map fun n => (4 + n, "http://")
      else none
  match web with
  | some (n, lead) =>
    let n := trimTrailing cs (addressEnd cs n)
    let t := String.ofList (cs.take n)
    some (.autolink t (lead ++ t) false, n)
  | none =>
    match cs.head? with
    | some c =>
      if isPunct c then none
      else
        match mailLength cs with
        | some n =>
          let next := (cs.drop n).head?
          if next = some '-' || next = some '_' then none
          else
            let n := trimTrailing cs n
            let t := String.ofList (cs.take n)
            some (.autolink t t true, n)
        | none => none
    | none => none

/-- The length of a tag name at the start: a letter, then letters, digits and hyphens. -/
def tagNameLength (cs : List Char) : Option Nat :=
  match cs with
  | c :: rest => if c.isAlpha then some (1 + (rest.takeWhile fun d => d.isAlphanum || d = '-').length) else none
  | [] => none

/-- The length of the attributes at the start of a tag: each after blanks, a name, and
optionally `=` and a value (unquoted, or in single or double quotes). -/
def attributesLength : Nat → List Char → Nat
  | 0, _ => 0
  | fuel + 1, cs =>
    let gap := cs.takeWhile isTagGap
    let rest := cs.drop gap.length
    match rest with
    | c :: more =>
      if !gap.isEmpty && (c.isAlpha || c = '_' || c = ':') then
        let name := 1 + (more.takeWhile fun d => d.isAlphanum || ":._-".toList.contains d).length
        let afterName := rest.drop name
        let sp := afterName.takeWhile isTagGap
        let value : Nat :=
          match afterName.drop sp.length with
          | '=' :: v =>
            let sp2 := v.takeWhile isTagGap
            let w := v.drop sp2.length
            let len : Option Nat := match w with
              | '\'' :: q => let body := q.takeWhile (· ≠ '\''); if body.length < q.length then some (body.length + 2) else none
              | '"' :: q => let body := q.takeWhile (· ≠ '"'); if body.length < q.length then some (body.length + 2) else none
              | _ =>
                let body := w.takeWhile fun d => d.toNat > 0x20 && !"\"'=<>`".toList.contains d
                if body.isEmpty then none else some body.length
            match len with
            | some l => sp.length + 1 + sp2.length + l
            | none => 0
          | _ => 0
        let here := gap.length + name + value
        here + attributesLength fuel (cs.drop here)
      else 0
    | [] => 0

/-- Inline HTML after its `<`: an open tag, a closing tag, a comment, a processing
instruction, a declaration or a section of character data, which may run over line feeds;
the text after it. -/
def inlineHtml? (cs : List Char) : Option (List Char) :=
  let upTo := fun (start : Nat) (close : String) =>
    let body := cs.drop start
    ((List.range (body.length + 1)).find? fun i => (body.drop i).take close.length == close.toList).map
      fun i => body.drop (i + close.length)
  match cs with
  | '/' :: rest =>
    match tagNameLength rest with
    | some n =>
      let after := rest.drop n
      let gap := after.takeWhile isTagGap
      match after.drop gap.length with
      | '>' :: more => some more
      | _ => none
    | none => none
  | '!' :: '-' :: '-' :: '>' :: more => some more
  | '!' :: '-' :: '-' :: '-' :: '>' :: more => some more
  | '!' :: '-' :: '-' :: _ => upTo 3 "-->"
  | '?' :: _ => upTo 1 "?>"
  | '!' :: c :: _ =>
    if 'A' ≤ c && c ≤ 'Z' then upTo 1 ">"
    else if cs.take 8 == "![CDATA[".toList then upTo 8 "]]>"
    else none
  | _ =>
    match tagNameLength cs with
    | some n =>
      let a := attributesLength cs.length (cs.drop n)
      let after := cs.drop (n + a)
      let gap := after.takeWhile isTagGap
      match after.drop gap.length with
      | '>' :: more => some more
      | '/' :: '>' :: more => some more
      | _ => none
    | none => none

/-- A link label made comparable: blanks trimmed and runs of them made one, lower case. -/
def labelKey (cs : List Char) : String :=
  let (out, _) := cs.foldl (fun (acc : List Char × Bool) c =>
    if c = ' ' || c = '\t' || c = '\n' then (acc.1, true)
    else (acc.1 ++ (if acc.2 && !acc.1.isEmpty then [' ', c] else [c]), false)) ([], false)
  Text.CaseMap.lower (String.ofList out)

end ConfigTables.Present.Markdown
