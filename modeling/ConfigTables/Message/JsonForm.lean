import ConfigTables.Message.Wire
import ConfigTables.Json.Value
import ConfigTables.Json.Scan
/-!
# Free-form messages as JSON

The JSON form of a free-form message is a JSON object; numbers are read as doubles and a
number out of the double range is refused, as are a repeated key, a top-level value that is
not an object, and anything after the object.

Reading works in two layers. The tokenizer splits the text into tokens and checks that each
token may follow the one before it (a value after a key, a comma between items); its faults
are syntax errors. The reader builds the message from the tokens; its faults name what was
wrong with a well-formed token (a repeated key, a number out of range). Every fault gives
the line and column (in characters) where the offending token starts, except the input
ending inside a value.

Writing gives each number the data-file number text and refuses numbers that are not finite
and values whose kind is not set.
-/

namespace ConfigTables.Message

/-- The kinds of token. -/
inductive TokKind where
  | start
  | eof
  | null
  | bool
  | number
  | string
  | name
  | objOpen
  | objClose
  | arrOpen
  | arrClose
  | comma
  deriving Repr, DecidableEq

/-- A token: its kind, its offset, its raw text, and the text of a string or name. -/
structure Token where
  kind : TokKind
  pos : Nat
  raw : String
  text : String
  deriving Repr

/-- Why reading the JSON form failed. -/
inductive ReadFault where
  /-- A malformed or misplaced token at an offset. -/
  | malformed (pos : Nat) (msg : String)
  /-- A well-formed token that the message cannot take, at an offset. -/
  | refused (pos : Nat) (msg : String)
  /-- The input ended inside the message. -/
  | truncated
  deriving Repr

/-- Line and column (in characters) of an offset. -/
def lineCol (orig : List UInt8) (pos : Nat) : Nat × Nat :=
  let before := orig.take pos
  let line := before.count 10 + 1
  let lastLine := (before.reverse.takeWhile (· ≠ 10))
  let col := (lastLine.filter (fun b => b < 0x80 || b ≥ 0xC0)).length + 1
  (line, col)

/-- The text of a fault over the input it was read from. -/
def ReadFault.message (orig : List UInt8) : ReadFault → String
  | .malformed pos msg =>
    let (l, c) := lineCol orig pos
    "proto: syntax error (line " ++ toString l ++ ":" ++ toString c ++ "): " ++ msg
  | .refused pos msg =>
    let (l, c) := lineCol orig pos
    "proto: (line " ++ toString l ++ ":" ++ toString c ++ "): " ++ msg
  | .truncated => "proto: unexpected EOF"

/-- Octets that may continue a bare word. -/
def wordOctet (b : UInt8) : Bool :=
  b = 45 || b = 43 || b = 46 || b = 95 || (97 ≤ b && b ≤ 122) || (65 ≤ b && b ≤ 90) ||
    (48 ≤ b && b ≤ 57)

/-- The octet text of a list. -/
def octetText (bs : List UInt8) : String := Text.Utf8.decodeLossy bs

/-- The bare word at the front, for diagnostics: up to 32 word octets, else one character. -/
def frontWord (bs : List UInt8) : String :=
  let w := (bs.takeWhile wordOctet).take 32
  if w.isEmpty then
    match Text.Utf8.decodeFront bs with
    | some (c, _) => String.ofList [c]
    | none => octetText (bs.take 1)
  else octetText w

/-- The length of a literal at the front when it is not followed by a word octet. -/
def literalLength (word : List UInt8) (bs : List UInt8) : Option Nat :=
  if word.isPrefixOf bs then
    match bs.drop word.length with
    | b :: _ => if wordOctet b then none else some word.length
    | [] => some word.length
  else none

/-- The length of a number at the front, if one is there and ends at a delimiter. -/
def numberLength (bs : List UInt8) : Option Nat :=
  let isD (b : UInt8) : Bool := 48 ≤ b && b ≤ 57
  let (n, s) := match bs with
    | 45 :: r => (1, r)
    | r => (0, r)
  let intPart : Option (Nat × List UInt8) := match s with
    | 48 :: r => some (n + 1, r)
    | b :: r => if 49 ≤ b && b ≤ 57 then some (n + 1 + (r.takeWhile isD).length, r.dropWhile isD) else none
    | [] => none
  match intPart with
  | none => none
  | some (n, s) =>
    let (n, s) := match s with
      | 46 :: b :: r =>
        if isD b then (n + 2 + (r.takeWhile isD).length, r.dropWhile isD) else (n, s)
      | _ => (n, s)
    let expo : Option (Nat × List UInt8) := match s with
      | e :: b :: r =>
        if e = 101 || e = 69 then
          if b = 43 || b = 45 then
            if r.isEmpty then none else some (n + 2 + (r.takeWhile isD).length, r.dropWhile isD)
          else some (n + 1 + ((b :: r).takeWhile isD).length, (b :: r).dropWhile isD)
        else some (n, s)
      | _ => some (n, s)
    match expo with
    | none => none
    | some (n, s) =>
      match s with
      | b :: _ => if wordOctet b then none else some n
      | [] => some n

/-- A character as a quoted rune for diagnostics. -/
def quoteRune (c : Char) : String :=
  if c = '\'' then "'\\''" else "'" ++ String.ofList (Text.Quoted.escapeChar c) ++ "'"

/-- Reads a string token's body after the opening quote: the text and the octets consumed
after the quote. Faults are placed at `pos`, the start of the token. -/
def stringToken (pos : Nat) (fuel : Nat) (acc : List Char) (bs : List UInt8) :
    Except ReadFault (List Char × List UInt8) :=
  match fuel, bs with
  | 0, _ => .error .truncated
  | _, [] => .error .truncated
  | _ + 1, 34 :: rest => .ok (acc.reverse, rest)
  | fuel + 1, 92 :: rest =>
    match rest with
    | [] => .error .truncated
    | e :: more =>
      let simple (c : Char) := stringToken pos fuel (c :: acc) more
      if e = 34 then simple '"' else if e = 92 then simple '\\' else if e = 47 then simple '/'
      else if e = 98 then simple '\x08' else if e = 102 then simple '\x0c'
      else if e = 110 then simple '\n' else if e = 114 then simple '\r'
      else if e = 116 then simple '\t'
      else if e = 117 then
        let hexOk (xs : List UInt8) := xs.length = 4 && xs.all Json.isHexOctet
        let escText (xs : List UInt8) := Text.Quoted.quote (octetText xs)
        if more.length < 4 then .error .truncated
        else
          let h := more.take 4
          let after := more.drop 4
          if !hexOk h then .error (.malformed pos ("invalid escape code " ++ escText (92 :: 117 :: h) ++ " in string"))
          else
            let n := Json.hex4 (h.getD 0 0) (h.getD 1 0) (h.getD 2 0) (h.getD 3 0)
            if Json.isSurrogate n then
              if after.length < 6 then .error .truncated
              else
                let h2 := (after.drop 2).take 4
                let n2 := Json.hex4 (h2.getD 0 0) (h2.getD 1 0) (h2.getD 2 0) (h2.getD 3 0)
                let pairOk := after.take 2 == [92, 117] && hexOk h2 &&
                  0xD800 ≤ n && n < 0xDC00 && 0xDC00 ≤ n2 && n2 < 0xE000
                if pairOk then
                  stringToken pos fuel (Char.ofNat (0x10000 + (n - 0xD800) * 0x400 + (n2 - 0xDC00)) :: acc)
                    (after.drop 6)
                else .error (.malformed pos ("invalid escape code " ++ escText (after.take 6) ++ " in string"))
            else stringToken pos fuel (Char.ofNat n :: acc) after
      else .error (.malformed pos ("invalid escape code " ++ Text.Quoted.quote (octetText [92, e]) ++ " in string"))
  | fuel + 1, b :: rest =>
    match Text.Utf8.decodeFront (b :: rest) with
    | none => .error (.malformed pos "invalid UTF-8 in string")
    | some (c, k) =>
      if c.toNat < 32 then .error (.malformed pos ("invalid character " ++ quoteRune c ++ " in string"))
      else stringToken pos fuel (c :: acc) ((b :: rest).drop k)

/-- The tokenizer's state: the whole input, what is left of it, the open containers
(innermost first, `true` for an object) and the kind of the last token. -/
structure Tokenizer where
  orig : List UInt8
  rest : List UInt8
  pos : Nat
  open_ : List Bool
  last : TokKind

/-- A tokenizer at the start of an input. -/
def Tokenizer.start (bs : List UInt8) : Tokenizer := ⟨bs, bs, 0, [], .start⟩

/-- Whether a value may come next. -/
def Tokenizer.valueNext (t : Tokenizer) : Bool :=
  match t.open_ with
  | [] => t.last == .start
  | true :: _ => t.last == .name
  | false :: _ => t.last == .arrOpen || t.last == .comma

/-- The next raw token and the tokenizer after it, before sequence checks. -/
def Tokenizer.scan (t : Tokenizer) : Except ReadFault (Token × Tokenizer) :=
  let blanks := (t.rest.takeWhile Json.isBlankOctet).length
  let pos := t.pos + blanks
  let bs := t.rest.drop blanks
  let take (k : TokKind) (n : Nat) (text : String) : Token × Tokenizer :=
    (⟨k, pos, octetText (bs.take n), text⟩, { t with rest := bs.drop n, pos := pos + n })
  match bs with
  | [] => .ok (take .eof 0 "")
  | b :: rest =>
    let invalid : Except ReadFault (Token × Tokenizer) :=
      .error (.malformed pos ("invalid value " ++ frontWord bs))
    if b = 110 then
      match literalLength [110, 117, 108, 108] bs with
      | some n => .ok (take .null n "")
      | none => invalid
    else if b = 116 then
      match literalLength [116, 114, 117, 101] bs with
      | some n => .ok (take .bool n "true")
      | none => invalid
    else if b = 102 then
      match literalLength [102, 97, 108, 115, 101] bs with
      | some n => .ok (take .bool n "false")
      | none => invalid
    else if b = 45 || (48 ≤ b && b ≤ 57) then
      match numberLength bs with
      | some n => .ok (take .number n "")
      | none => invalid
    else if b = 34 then
      match stringToken pos (rest.length + 1) [] rest with
      | .ok (cs, after) =>
        let n := bs.length - after.length
        .ok (take .string n (String.ofList cs))
      | .error e => .error e
    else if b = 123 then .ok (take .objOpen 1 "")
    else if b = 125 then .ok (take .objClose 1 "")
    else if b = 91 then .ok (take .arrOpen 1 "")
    else if b = 93 then .ok (take .arrClose 1 "")
    else if b = 44 then .ok (take .comma 1 "")
    else invalid

/-- The fault of a token that may not stand where it is. -/
def unexpected (tok : Token) : ReadFault :=
  .malformed tok.pos ("unexpected token " ++ tok.raw)

/-- The next token, checked against the one before it; commas are checked and skipped. -/
def Tokenizer.read (fuel : Nat) (t : Tokenizer) : Except ReadFault (Token × Tokenizer) :=
  match fuel with
  | 0 => .error .truncated
  | fuel + 1 => do
    let (tok, t') ← t.scan
    let scalarOrClose := t.last == .null || t.last == .bool || t.last == .number ||
      t.last == .string || t.last == .objClose || t.last == .arrClose
    match tok.kind with
    | .eof =>
      if !t.open_.isEmpty then throw .truncated
      pure (tok, { t' with last := .eof })
    | .null | .bool | .number | .objOpen | .arrOpen =>
      if !t.valueNext then throw (unexpected tok)
      let opened := match tok.kind with
        | .objOpen => true :: t.open_
        | .arrOpen => false :: t.open_
        | _ => t.open_
      pure (tok, { t' with last := tok.kind, open_ := opened })
    | .string =>
      if t.valueNext then pure (tok, { t' with last := .string })
      else
        if !(t.last == .objOpen || t.last == .comma) then throw (unexpected tok)
        let blanks := (t'.rest.takeWhile Json.isBlankOctet).length
        let t' := { t' with rest := t'.rest.drop blanks, pos := t'.pos + blanks }
        match t'.rest with
        | [] => throw .truncated
        | 58 :: more =>
          let tok := { tok with kind := .name }
          pure (tok, { t' with rest := more, pos := t'.pos + 1, last := .name })
        | c :: _ =>
          throw (.malformed t'.pos ("unexpected character " ++ String.singleton (Char.ofNat c.toNat) ++
            ", missing \":\" after field name"))
    | .objClose =>
      match t.open_ with
      | true :: outer =>
        if t.last == .name || t.last == .comma then throw (unexpected tok)
        pure (tok, { t' with last := .objClose, open_ := outer })
      | _ => throw (unexpected tok)
    | .arrClose =>
      match t.open_ with
      | false :: outer =>
        if t.last == .comma then throw (unexpected tok)
        pure (tok, { t' with last := .arrClose, open_ := outer })
      | _ => throw (unexpected tok)
    | .comma =>
      if t.open_.isEmpty || !scalarOrClose then throw (unexpected tok)
      Tokenizer.read fuel { t' with last := .comma }
    | _ => throw (unexpected tok)

mutual
/-- Reads a value whose first token is `tok`, already read. -/
def readValueFrom (fuel : Nat) (tok : Token) (t : Tokenizer) : Except ReadFault (Value × Tokenizer) :=
  match fuel with
  | 0 => .error .truncated
  | fuel + 1 =>
    match tok.kind with
    | .null => .ok (.null, t)
    | .bool => .ok (.bool (tok.text == "true"), t)
    | .number =>
      match Binary64.ofLiteral? tok.raw with
      | some x =>
        if x.isFinite then .ok (.number x, t)
        else .error (.refused tok.pos ("invalid google.protobuf.Value: " ++ tok.raw))
      | none => .error (.refused tok.pos ("invalid google.protobuf.Value: " ++ tok.raw))
    | .string => .ok (.text tok.text, t)
    | .objOpen =>
      match readMembers fuel [] t with
      | .ok (o, t) => .ok (.object o, t)
      | .error e => .error e
    | .arrOpen =>
      match readItems fuel [] t with
      | .ok (xs, t) => .ok (.list xs, t)
      | .error e => .error e
    | _ => .error (unexpected tok)
/-- Reads the members of an object after its opening brace, up to its closing brace. -/
def readMembers (fuel : Nat) (acc : Object) (t : Tokenizer) : Except ReadFault (Object × Tokenizer) :=
  match fuel with
  | 0 => .error .truncated
  | fuel + 1 =>
    match t.read (t.rest.length + 2) with
    | .error e => .error e
    | .ok (tok, t) =>
      match tok.kind with
      | .objClose => .ok (acc, t)
      | .name =>
        if acc.has tok.text then .error (.refused tok.pos ("duplicate map key " ++ tok.raw))
        else
          match t.read (t.rest.length + 2) with
          | .error e => .error e
          | .ok (vtok, t) =>
            match readValueFrom fuel vtok t with
            | .error e => .error e
            | .ok (v, t) => readMembers fuel (acc.set tok.text v) t
      | _ => .error (unexpected tok)
/-- Reads the items of a list after its opening bracket, up to its closing bracket. -/
def readItems (fuel : Nat) (acc : List Value) (t : Tokenizer) : Except ReadFault (List Value × Tokenizer) :=
  match fuel with
  | 0 => .error .truncated
  | fuel + 1 =>
    match t.read (t.rest.length + 2) with
    | .error e => .error e
    | .ok (tok, t) =>
      match tok.kind with
      | .arrClose => .ok (acc.reverse, t)
      | _ =>
        match readValueFrom fuel tok t with
        | .error e => .error e
        | .ok (v, t) => readItems fuel (v :: acc) t
end

/-- Reads the members of the outermost object after its opening brace, keeping the members
read before a fault: a member is kept once its value has been read whole. -/
def readTopMembers (fuel : Nat) (acc : Object) (t : Tokenizer) : Object × Except ReadFault Tokenizer :=
  match fuel with
  | 0 => (acc, .error .truncated)
  | fuel + 1 =>
    match t.read (t.rest.length + 2) with
    | .error e => (acc, .error e)
    | .ok (tok, t) =>
      match tok.kind with
      | .objClose => (acc, .ok t)
      | .name =>
        if acc.has tok.text then (acc, .error (.refused tok.pos ("duplicate map key " ++ tok.raw)))
        else
          match t.read (t.rest.length + 2) with
          | .error e => (acc, .error e)
          | .ok (vtok, t) =>
            match readValueFrom fuel vtok t with
            | .error e => (acc, .error e)
            | .ok (v, t) => readTopMembers fuel (acc.set tok.text v) t
      | _ => (acc, .error (unexpected tok))

/-- Reads a free-form message from its JSON form: the message as far as it was read, and the
fault that stopped reading, if any. The text must be one object and nothing after it. -/
def Object.readJsonForm (bs : List UInt8) : Object × Option String :=
  let t := Tokenizer.start bs
  let fuel := 2 * bs.length + 4
  match t.read fuel with
  | .error e => ([], some (e.message bs))
  | .ok (tok, t) =>
    if tok.kind != .objOpen then ([], some ((unexpected tok).message bs))
    else
      match readTopMembers fuel [] t with
      | (o, .error e) => (o, some (e.message bs))
      | (o, .ok t) =>
        match t.read fuel with
        | .error e => (o, some (e.message bs))
        | .ok (tok, _) => if tok.kind != .eof then (o, some ((unexpected tok).message bs)) else (o, none)

mutual
/-- A value as JSON, refusing numbers that are not finite and values of no kind. -/
def Value.toJson : Value → Except String Json
  | .null => pure .null
  | .number x =>
    if x.isFinite then pure (.number x.formatData)
    else throw ("proto: google.protobuf.Value.number_value: invalid " ++
      (if x.isNaN then "NaN" else if x.negative then "-Inf" else "+Inf") ++ " value")
  | .text s => pure (.string s)
  | .bool b => pure (.bool b)
  | .object o => return .object (← Value.membersToJson o)
  | .list xs => return .array (← Value.itemsToJson xs)
  | .unset => throw "proto: google.protobuf.Value: none of the oneof fields is set"
/-- Members as JSON. -/
def Value.membersToJson : List (String × Value) → Except String (List (String × Json))
  | [] => pure []
  | (k, v) :: rest => return (k, ← v.toJson) :: (← Value.membersToJson rest)
/-- Items as JSON. -/
def Value.itemsToJson : List Value → Except String (List Json)
  | [] => pure []
  | v :: rest => return (← v.toJson) :: (← Value.itemsToJson rest)
end

/-- A message as a JSON object. -/
def Object.toJson (o : Object) : Except String Json :=
  return .object (← Value.membersToJson o)

end ConfigTables.Message
