import ConfigTables.Text.Utf8
import ConfigTables.Text.Octets
/-!
# Link targets

A link or image target is shown resolved against an empty base address, the way a browser
would resolve it on a page of its own:

* A target that is not a valid address is shown as it is; a link to one is not shown. A
  target is invalid when, before its `#`, it holds a control character; when it holds a `%`
  without two hexadecimal digits after it (in its path or fragment); when a colon is its
  first character or, without a scheme, stands in its first path segment; or when its
  authority is invalid.
* The authority follows `//` (after a scheme, or without one unless a third `/` follows) up
  to the next `/`. Its host comes after the last `@`: a host in brackets must be an IPv6
  address (with a zone after `%25`, if any), and any port after it or after the host's last
  colon must be digits. A host may hold letters, digits, `-._~!$&'()*+,;=:[]<>"`, bytes
  beyond ASCII and escapes of such bytes (or `%25`). User information before the `@` holds
  letters, digits and `-._:~!$&'()*+,;=%@` only.
* A target with a scheme (`http:`, `mailto:`, ...) is shown as it is.
* Otherwise its path loses one leading `/`, its `.` and `..` segments are worked out, and it
  is shown as an absolute path (`img.png` becomes `/img.png`), after `//` and its authority
  when it has a host or user information, and with its query and fragment after it. The
  path is written escaped: as it was written when that is valid escaped text and it did not
  start with `/`, else with every character outside the unreserved and reserved sets as `%`
  and two upper-case digits, byte by byte.

A link whose target is only an anchor in the same page (`#top`) shows no target.
-/

namespace ConfigTables.Present.Markdown

/-- The parts of an address that escape differently. -/
inductive Part where
  | path
  | fragment
  | host
  | user
  deriving DecidableEq

/-- Whether a byte is written escaped in a part of an address. -/
def escapes (part : Part) (b : UInt8) : Bool :=
  let c := Char.ofNat b.toNat
  if b.toNat < 128 && c.isAlphanum then false
  else if part = .host && b.toNat < 128 && "!$&'()*+,;=:[]<>\"".toList.contains c then false
  else if "-_.~".toList.contains c then false
  else if "$&+,/:;=?@".toList.contains c then
    match part with
    | .path => c = '?'
    | .fragment => false
    | .user => c = '@' || c = '/' || c = '?' || c = ':'
    | .host => true
  else if part = .fragment && "!()*".toList.contains c then false
  else true

/-- Whether written text may stand as it is in a part: every byte a sub-delimiter, a
bracket, a percent sign, or one that is not escaped. -/
def validEncoded (part : Part) (bs : List UInt8) : Bool :=
  bs.all fun b => (b.toNat < 128 && "!$&'()*+,;=:@[]%".toList.contains (Char.ofNat b.toNat)) ||
    !escapes part b

/-- Bytes with their escapes (`%` and two hexadecimal digits) decoded; none for a percent
sign without two digits after it. -/
def unescapeBytes : List UInt8 → Option (List UInt8)
  | [] => some []
  | b :: rest =>
    if b = 37 then
      match rest with
      | h :: l :: more => do
        let a ← Text.Hex.value? (Char.ofNat h.toNat)
        let c ← Text.Hex.value? (Char.ofNat l.toNat)
        let tail ← unescapeBytes more
        pure ((a * 16 + c).toUInt8 :: tail)
      | _ => none
    else (unescapeBytes rest).map (b :: ·)

/-- Bytes written with those a part escapes as `%` and two upper-case digits. -/
def escapeBytes (part : Part) (bs : List UInt8) : String :=
  String.ofList (bs.flatMap fun b =>
    if escapes part b then '%' :: (Text.Hex.pair b).map Char.toUpper else [Char.ofNat b.toNat])

/-- A part as written back: as written when that is valid escaped text, else decoded and
escaped again. -/
def escapedForm (part : Part) (raw : String) : String :=
  let bs := Text.Utf8.encode raw
  if validEncoded part bs then raw else escapeBytes part ((unescapeBytes bs).getD bs)

/-! ## Hosts -/

/-- Host text decoded, or none when it is no valid host text: an escape needs two
hexadecimal digits and may not stand for an ASCII byte other than `%` (`%25`), and every
other ASCII character must be one a host may hold. In a zone, an escape may stand for a
blank or for any byte a host may hold. -/
def unescapeHost (zone : Bool) : List UInt8 → Option (List UInt8)
  | [] => some []
  | b :: rest =>
    if b = 37 then
      match rest with
      | h :: l :: more =>
        match Text.Hex.value? (Char.ofNat h.toNat), Text.Hex.value? (Char.ofNat l.toNat) with
        | some a, some c =>
          let v := a * 16 + c
          let percent := a = 2 && c = 5
          let refused := if zone then !percent && v ≠ 32 && escapes .host v.toUInt8
            else a < 8 && !percent
          if refused then none else (unescapeHost zone more).map (v.toUInt8 :: ·)
        | _, _ => none
      | _ => none
    else if b.toNat < 128 && escapes .host b then none
    else (unescapeHost zone rest).map (b :: ·)

/-- Whether text is a port after a host: empty, or a colon and digits. -/
def validPort (cs : List Char) : Bool :=
  match cs with
  | [] => true
  | ':' :: digits => digits.all Char.isDigit
  | _ => false

/-- Whether text is an IPv4 address in dotted form: four decimal fields, each at most 255
and without a leading zero. -/
def isDottedQuad (cs : List Char) : Bool :=
  let fields := (String.ofList cs).splitOn "."
  fields.length = 4 && fields.all fun f =>
    !f.isEmpty && f.all Char.isDigit && (f.length = 1 || !f.startsWith "0") && f.toNat! ≤ 255

/-- A hexadecimal digit. -/
def isHexDigitChar (c : Char) : Bool := (Text.Hex.value? c).isSome

/-- Whether the groups of an IPv6 address from some point on are well formed: `i` bytes are
read so far, and `gap` is where the `::` stands, if it was read. A group has one to four
hexadecimal digits; an IPv4 address in dotted form may stand for the last two groups. The
address must make sixteen bytes, the `::` standing for at least one zero group. The fuel
bounds the groups. -/
def ipv6Groups : Nat → List Char → Nat → Option Nat → Bool
  | 0, _, _, _ => false
  | fuel + 1, s, i, gap =>
    let complete := fun (i : Nat) (gap : Option Nat) => if i < 16 then gap.isSome else gap.isNone
    if i ≥ 16 then false
    else
      let hex := s.takeWhile isHexDigitChar
      if hex.isEmpty || hex.length > 4 then false
      else
        match s.drop hex.length with
        | '.' :: _ => (gap.isSome || i = 12) && i + 4 ≤ 16 && isDottedQuad s && complete (i + 4) gap
        | [] => complete (i + 2) gap
        | [':'] => false
        | ':' :: ':' :: more =>
          if gap.isSome then false
          else if more.isEmpty then complete (i + 2) (some (i + 2))
          else ipv6Groups fuel more (i + 2) (some (i + 2))
        | ':' :: more => ipv6Groups fuel more (i + 2) gap
        | _ => false

/-- Whether text is an IPv6 address, with a zone after `%` if any: the first of `.`, `:`
and `%` in it must be a colon, and a zone may not be empty. -/
def isIPv6 (cs : List Char) : Bool :=
  let body := cs.takeWhile (· ≠ '%')
  let zone := cs.drop body.length
  cs.find? (fun c => c = '.' || c = ':' || c = '%') = some ':' && zone.length ≠ 1 &&
    match body with
    | ':' :: ':' :: [] => true
    | ':' :: ':' :: more => ipv6Groups 9 more 0 (some 0)
    | _ => ipv6Groups 9 body 0 none

/-- The last position of a byte in bytes. -/
def lastIndexOf (b : UInt8) (bs : List UInt8) : Option Nat :=
  (List.range bs.length).reverse.find? fun i => bs[i]? = some b

/-- The first position of a run of bytes in bytes. -/
def indexOfRun (run bs : List UInt8) : Option Nat :=
  (List.range (bs.length + 1)).find? fun i => (bs.drop i).take run.length == run

/-- A host (with its port) read from its text, decoded; none when it is invalid. A host
with `[` is an IP literal: the text from the last `[` to the last `]` must be an IPv6
address once decoded (a zone after `%25` decoded the zone's way), and only a port may follow
the `]`. Otherwise any port after the last colon must be digits, and the host is decoded
as host text. -/
def parseHost (host : List UInt8) : Option (List UInt8) :=
  match lastIndexOf 91 host with
  | some opening =>
    match lastIndexOf 93 host with
    | none => none
    | some close =>
      let port := host.drop (close + 1)
      if !validPort (port.map fun b => Char.ofNat b.toNat) then none
      else
        let name := (host.take close).drop (opening + 1)
        let decoded := match indexOfRun [37, 50, 53] name with
          | some z => do
            let a ← unescapeHost false (name.take z)
            let b ← unescapeHost true (name.drop z)
            pure (a ++ b)
          | none => unescapeHost false name
        decoded.bind fun d =>
          if isIPv6 (d.map fun b => Char.ofNat b.toNat) then some ([91] ++ d ++ [93] ++ port) else none
  | none =>
    match lastIndexOf 58 host with
    | some i =>
      if validPort ((host.drop i).map fun b => Char.ofNat b.toNat) then unescapeHost false host else none
    | none => unescapeHost false host

/-- User information of an address, decoded: a name and maybe a password. -/
structure UserInfo where
  name : List UInt8
  password : Option (List UInt8)

/-- Whether user information holds only the characters it may hold. -/
def validUserText (bs : List UInt8) : Bool :=
  bs.all fun b => b.toNat < 128 &&
    ((Char.ofNat b.toNat).isAlphanum || "-._:~!$&'()*+,;=%@".toList.contains (Char.ofNat b.toNat))

/-- An authority read from its text: the user information before its last `@`, if any,
and the host after it, decoded; none when either is invalid. -/
def parseAuthority (text : List UInt8) : Option (Option UserInfo × List UInt8) :=
  match lastIndexOf 64 text with
  | none => (parseHost text).map fun h => (none, h)
  | some i =>
    let info := text.take i
    match parseHost (text.drop (i + 1)) with
    | none => none
    | some h =>
      if !validUserText info then none
      else
        let name := info.takeWhile (· ≠ 58)
        if name.length = info.length then (unescapeBytes info).map fun n => (some ⟨n, none⟩, h)
        else do
          let n ← unescapeBytes name
          let p ← unescapeBytes (info.drop (name.length + 1))
          pure (some ⟨n, some p⟩, h)

/-- User information as written in an address: name, then a colon and the password if it
has one, then `@`. -/
def UserInfo.written (u : UserInfo) : String :=
  escapeBytes .user u.name ++ (u.password.map fun p => ":" ++ escapeBytes .user p).getD "" ++ "@"

/-! ## Targets -/

/-- A target cut into its parts: scheme (empty for none), authority (user information and
host, decoded) when it has one, path as written, query (after a `?`, if any) and fragment
(after a `#`, if any). -/
structure Target where
  scheme : String
  authority : Option (Option UserInfo × List UInt8)
  path : String
  query : Option String
  fragment : Option String

/-- The scheme at the start of a target and the rest; none when a colon comes first. -/
def schemeOf (cs : List Char) : Option (String × List Char) :=
  let letters := cs.takeWhile fun c => c.isAlpha || c.isDigit || c = '+' || c = '-' || c = '.'
  match cs.head?, cs.drop letters.length with
  | some ':', _ => none
  | some c, ':' :: rest =>
    if c.isAlpha then some (String.ofList letters, rest) else some ("", cs)
  | _, _ => some ("", cs)

/-- A target read as an address; none when it is not a valid one. -/
def Target.parse? (s : String) : Option Target := do
  let cs := s.toList
  let before := cs.takeWhile (· ≠ '#')
  if before.any fun c => c.toNat < 0x20 || c.toNat = 0x7F then none
  let fragment := if before.length < cs.length then some (String.ofList (cs.drop (before.length + 1))) else none
  if let some f := fragment then
    if (unescapeBytes (Text.Utf8.encode f)).isNone then none
  let (scheme, rest) ← schemeOf before
  let beforeQuery := rest.takeWhile (· ≠ '?')
  let query := if beforeQuery.length < rest.length then some (String.ofList (rest.drop (beforeQuery.length + 1))) else none
  if !scheme.isEmpty && beforeQuery.head? ≠ some '/' then
    pure ⟨scheme, none, String.ofList beforeQuery, query, fragment⟩
  else
    if scheme.isEmpty && beforeQuery.head? ≠ some '/' && (beforeQuery.takeWhile (· ≠ '/')).contains ':' then none
    let slashes := beforeQuery.take 2 = ['/', '/'] && (!scheme.isEmpty || beforeQuery.take 3 ≠ ['/', '/', '/'])
    let authorityText := if slashes then (beforeQuery.drop 2).takeWhile (· ≠ '/') else []
    let path := if slashes then (beforeQuery.drop 2).drop authorityText.length else beforeQuery
    let authority ← if slashes then
        (parseAuthority (Text.Utf8.encode (String.ofList authorityText))).map some
      else some none
    if (unescapeBytes (Text.Utf8.encode (String.ofList path))).isNone then none
    pure ⟨scheme, authority, String.ofList path, query, fragment⟩

/-- A path with its `.` and `..` segments worked out, as an absolute path; the empty path
stays empty. -/
def resolveDots (full : String) : String :=
  if full.isEmpty then ""
  else
    let segs := full.splitOn "/"
    let out := segs.foldl (fun (out : List String) seg =>
      if seg = "." then out else if seg = ".." then out.tail else seg :: out) []
    let body := "/".intercalate out.reverse
    let last := segs.getLast?.getD ""
    let r := "/" ++ body ++ (if last = "." || last = ".." then "/" else "")
    if r.length > 1 && r.startsWith "//" then (r.drop 1).toString else r

/-- A target resolved against an empty base address: unchanged when it has a scheme or is
not a valid address, else an absolute path (after its authority, when that has a host or
user information) with its query and fragment. -/
def resolveTarget (s : String) : String :=
  match Target.parse? s with
  | none => s
  | some t =>
    if !t.scheme.isEmpty then s
    else
      let decoded := (unescapeBytes (Text.Utf8.encode t.path)).getD []
      let written := match decoded with
        | 47 :: rest => escapeBytes .path rest
        | _ => escapedForm .path t.path
      let lead := match t.authority with
        | some (user, host) =>
          if user.isNone && host.isEmpty then ""
          else "//" ++ (user.map UserInfo.written).getD "" ++ escapeBytes .host host
        | none => ""
      let fragment := match t.fragment with
        | some f => if (unescapeBytes (Text.Utf8.encode f)).getD [] = [] then "" else "#" ++ escapedForm .fragment f
        | none => ""
      lead ++ resolveDots written ++ (t.query.map ("?" ++ ·)).getD "" ++ fragment

/-- Whether a target is only an anchor in the same page: `#` and a fragment that reads the
same decoded. -/
def onlyAnchor (s : String) : Bool :=
  match Target.parse? s with
  | some ⟨_, _, _, _, some f⟩ =>
    s = "#" ++ Text.Utf8.decodeLossy ((unescapeBytes (Text.Utf8.encode f)).getD [])
  | _ => false

end ConfigTables.Present.Markdown
