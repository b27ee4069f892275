import ConfigTables.Text.Octets
/-!
# JSON values and their text

A JSON value keeps a number as the text it is written with, so that a value read from a file
prints back digit for digit and a value built by a printer of numbers carries that printer's
choice of form. Objects keep their members in order, repeated names included.

Text is written in one of two layouts, on one line with no blanks (`compact`) or one member
per line with a fixed indent and a blank after each colon (`indented`), empty objects and
arrays staying `{}` and `[]`. How strings are escaped is a `StringStyle`: the quote, the
backslash and the control characters are always escaped, with the short escapes for
backspace, form feed, line feed, carriage return and tab; the markup characters `< > &`, the
line and paragraph separators and the delete character are escaped as `\u` sequences when
the style says so.
-/

namespace ConfigTables

/-- A JSON value. -/
inductive Json where
  | null
  | bool (b : Bool)
  | number (text : String)
  | string (s : String)
  | array (items : List Json)
  | object (members : List (String × Json))
  deriving Repr, Inhabited, BEq

namespace Json

/-- Which characters beyond the quote, the backslash and the controls are escaped. -/
structure StringStyle where
  /-- `<`, `>` and `&` as `\u` escapes. -/
  markup : Bool
  /-- U+2028 and U+2029 as `\u` escapes. -/
  separators : Bool
  /-- U+007F as `\u007f`. -/
  delete : Bool
  deriving Repr

/-- Strings of data files: markup characters and separators escaped. -/
def StringStyle.data : StringStyle := ⟨true, true, false⟩

/-- Strings of protocol-buffer JSON: only the delete character escaped beyond the controls. -/
def StringStyle.message : StringStyle := ⟨false, false, true⟩

/-- Strings left as they are beyond the required escapes. -/
def StringStyle.plain : StringStyle := ⟨false, false, false⟩

/-- A `\u` escape of a code point below U+10000, four lower-case digits. -/
def unicodeEscape (n : Nat) : List Char :=
  ['\\', 'u'] ++ (List.range 4).reverse.map (fun i => Text.Hex.digit (n / Nat.pow 16 i % 16))

/-- The written form of one character inside a string. -/
def escapeChar (st : StringStyle) (c : Char) : List Char :=
  match c with
  | '"' => ['\\', '"']
  | '\\' => ['\\', '\\']
  | '\x08' => ['\\', 'b']
  | '\x0c' => ['\\', 'f']
  | '\n' => ['\\', 'n']
  | '\r' => ['\\', 'r']
  | '\t' => ['\\', 't']
  | _ =>
    let n := c.toNat
    if n < 0x20 then unicodeEscape n
    else if st.markup && (c = '<' || c = '>' || c = '&') then unicodeEscape n
    else if st.separators && (n = 0x2028 || n = 0x2029) then unicodeEscape n
    else if st.delete && n = 0x7F then unicodeEscape n
    else [c]

/-- A string in quotes with its characters escaped. -/
def quote (st : StringStyle) (s : String) : String :=
  String.ofList ('"' :: (s.toList.flatMap (escapeChar st) ++ ['"']))

mutual
/-- The value on one line with no blanks. -/
def compact (st : StringStyle) : Json → String
  | null => "null"
  | bool b => if b then "true" else "false"
  | number t => t
  | string s => quote st s
  | array xs => "[" ++ compactItems st xs ++ "]"
  | object ms => "\x7b" ++ compactMembers st ms ++ "\x7d"
/-- Array items on one line, separated by commas. -/
def compactItems (st : StringStyle) : List Json → String
  | [] => ""
  | [x] => compact st x
  | x :: xs => compact st x ++ "," ++ compactItems st xs
/-- Object members on one line, separated by commas. -/
def compactMembers (st : StringStyle) : List (String × Json) → String
  | [] => ""
  | [(k, v)] => quote st k ++ ":" ++ compact st v
  | (k, v) :: ms => quote st k ++ ":" ++ compact st v ++ "," ++ compactMembers st ms
end

mutual
/-- The value with one item or member per line, `pad` being the indent of the current line. -/
def indented (st : StringStyle) (unit pad : String) : Json → String
  | array [] => "[]"
  | object [] => "{}"
  | array xs => "[\n" ++ indentedItems st unit (pad ++ unit) xs ++ "\n" ++ pad ++ "]"
  | object ms => "\x7b\n" ++ indentedMembers st unit (pad ++ unit) ms ++ "\n" ++ pad ++ "\x7d"
  | v => compact st v
/-- Array items, each on its own line at indent `pad`. -/
def indentedItems (st : StringStyle) (unit pad : String) : List Json → String
  | [] => ""
  | [x] => pad ++ indented st unit pad x
  | x :: xs => pad ++ indented st unit pad x ++ ",\n" ++ indentedItems st unit pad xs
/-- Object members, each on its own line at indent `pad`. -/
def indentedMembers (st : StringStyle) (unit pad : String) : List (String × Json) → String
  | [] => ""
  | [(k, v)] => pad ++ quote st k ++ ": " ++ indented st unit pad v
  | (k, v) :: ms =>
    pad ++ quote st k ++ ": " ++ indented st unit pad v ++ ",\n" ++ indentedMembers st unit pad ms
end

/-- The value of a member of an object, the last one of that name. -/
def get? (v : Json) (key : String) : Option Json :=
  match v with
  | object ms => (ms.reverse.find? (·.1 = key)).map (·.2)
  | _ => none

/-- A natural number as a JSON number. -/
def nat (n : Nat) : Json := number (toString n)

/-- An integer as a JSON number. -/
def int (n : Int) : Json := number (toString n)

/-- A text or null. -/
def optString : Option String → Json
  | some s => string s
  | none => null

/-- A list of texts. -/
def strings (xs : List String) : Json := array (xs.map string)

end Json

end ConfigTables
