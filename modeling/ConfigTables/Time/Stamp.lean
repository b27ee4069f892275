import ConfigTables.Time.Civil
import ConfigTables.Time.Duration
/-!
# Time stamps

A time stamp is an instant, in nanoseconds since 1970-01-01T00:00:00Z, seen from a zone a
fixed number of seconds east of UTC.

**Reading** follows the layout `2006-01-02T15:04:05Z07:00` element by element: four digits
of year, two of month and of day, one or two of hour, two of minute and of second, an
optional fraction of a second after a point or a comma (digits past the ninth ignored), and
then `Z` or a signed offset `hh:mm`. A literal that does not match names the rest of the text
and the element of the layout it could not read; a month, hour, minute or second out of its
range, an offset past 24 hours or 60 minutes, text after the offset and a day past the end of
its month each have a diagnostic of their own.

**Writing** gives RFC 3339 with the fraction's trailing zeros dropped, `Z` for a zero offset
and `±hh:mm` otherwise. A year outside 0 to 9999 or an offset of a day or more has no such
text.
-/

namespace ConfigTables.Time

/-- An instant and the offset of the zone it is seen from. -/
structure Stamp where
  /-- Nanoseconds since 1970-01-01T00:00:00Z. -/
  ns : Int
  /-- Seconds east of UTC. -/
  offset : Int
  deriving Repr, BEq, Inhabited

/-- Whether a year of the proleptic Gregorian calendar is a leap year. -/
def isLeap (y : Int) : Bool := y % 4 = 0 && (y % 100 ≠ 0 || y % 400 = 0)

/-- The days of a month (1 to 12) in a year. -/
def daysIn (m : Nat) (y : Int) : Nat :=
  match m with
  | 2 => if isLeap y then 29 else 28
  | 4 | 6 | 9 | 11 => 30
  | _ => 31

/-- The day number, counted from 1970-01-01, of a date: the inverse of `civilOfDays`. -/
def daysOfCivil (y : Int) (m d : Nat) : Int :=
  let y := if m ≤ 2 then y - 1 else y
  let era := y / 400
  let yoe := (y - era * 400).toNat
  let mp := if m > 2 then m - 3 else m + 9
  let doy := (153 * mp + 2) / 5 + d - 1
  let doe := yoe * 365 + yoe / 4 - yoe / 100 + doy
  era * 146097 + doe - 719468

/-- The zero time stamp, 0001-01-01T00:00:00Z. -/
def Stamp.zero : Stamp := ⟨-62135596800 * 1000000000, 0⟩

/-- Whether a time stamp is the zero one. -/
def Stamp.isZero (t : Stamp) : Bool := t.ns = Stamp.zero.ns

/-- The whole seconds since 1970-01-01T00:00:00Z, rounded down. -/
def Stamp.unixSeconds (t : Stamp) : Int := t.ns / 1000000000

/-- The time stamp of whole seconds and nanoseconds since 1970-01-01T00:00:00Z, in UTC. -/
def Stamp.ofUnix (sec nsec : Int) : Stamp := ⟨sec * 1000000000 + nsec, 0⟩

/-- The text of a time stamp, or why it has none. -/
def Stamp.text (t : Stamp) : Except String String :=
  let ((y, mo, d), h, mi, s, nano) := partsOf (t.ns + t.offset * 1000000000)
  let zone := t.offset.tdiv 60
  if y < 0 || y > 9999 then .error "year outside of range [0,9999]"
  else if zone.natAbs / 60 ≥ 24 then .error "timezone hour outside of range [0,23]"
  else
    let zoneText :=
      if t.offset = 0 then "Z"
      else (if zone < 0 then "-" else "+") ++ padded 2 (zone.natAbs / 60) ++ ":" ++
        padded 2 (zone.natAbs % 60)
    .ok (padded 4 y.toNat ++ "-" ++ padded 2 mo ++ "-" ++ padded 2 d ++ "T" ++ padded 2 h ++ ":" ++
      padded 2 mi ++ ":" ++ padded 2 s ++ fracDigits nano 9 ++ zoneText)

/-! ## Reading -/

/-- The layout time stamps are read in, as diagnostics name it. -/
def stampLayout : String := "2006-01-02T15:04:05Z07:00"

/-- The diagnostic of text that does not match an element of the layout. -/
def layoutFault (value : String) (rest : List Char) (elem : String) : String :=
  "parsing time " ++ quoteText value ++ " as " ++ quoteText stampLayout ++ ": cannot parse " ++
    quoteText (String.ofList rest) ++ " as " ++ quoteText elem

/-- The diagnostic of a field out of its range, or of another fault of the whole text. -/
def stampFault (value : String) (message : String) : String :=
  "parsing time " ++ quoteText value ++ message

/-- The value of an ASCII digit. -/
def digitOf (c : Char) : Nat := c.toNat - 48

/-- One or two digits at the front (exactly two when `fixed`), and the rest. -/
def twoDigits (fixed : Bool) : List Char → Option (Nat × List Char)
  | a :: b :: rest =>
    if !a.isDigit then none
    else if b.isDigit then some (digitOf a * 10 + digitOf b, rest)
    else if fixed then none
    else some (digitOf a, b :: rest)
  | [a] => if a.isDigit && !fixed then some (digitOf a, []) else none
  | [] => none

/-- A literal character of the layout at the front, and the rest. -/
def literal (value : String) (c : Char) : List Char → Except String (List Char)
  | d :: rest => if c = d then .ok rest else .error (layoutFault value (d :: rest) (String.singleton c))
  | [] => .error (layoutFault value [] (String.singleton c))

/-- A number of the layout at the front: its value and the rest, its range checked. -/
def field (value elem what : String) (fixed : Bool) (lo hi : Nat) (cs : List Char) :
    Except String (Nat × List Char) :=
  match twoDigits fixed cs with
  | none => .error (layoutFault value cs elem)
  | some (n, rest) =>
    if n < lo || n > hi then .error (stampFault value (": " ++ what ++ " out of range"))
    else .ok (n, rest)

/-- An optional fraction of a second after a point or a comma: nanoseconds and the rest. -/
def fraction : List Char → Nat × List Char
  | c :: d :: rest =>
    if (c = '.' || c = ',') && d.isDigit then
      let ds := (d :: rest).takeWhile Char.isDigit
      let kept := (ds.take 9).foldl (fun n x => n * 10 + digitOf x) 0
      (kept * Nat.pow 10 (9 - min 9 ds.length), (d :: rest).drop ds.length)
    else (0, c :: d :: rest)
  | cs => (0, cs)

/-- The zone at the front: `Z`, or a sign, two digits of hours, a colon and two digits of
minutes. Its offset in seconds and the rest. -/
def zoneOf (value : String) (cs : List Char) : Except String (Int × List Char) :=
  match cs with
  | 'Z' :: rest => .ok (0, rest)
  | _ =>
    let bad := Except.error (layoutFault value cs "Z07:00")
    match cs with
    | sign :: h1 :: h2 :: colon :: m1 :: m2 :: rest =>
      if colon ≠ ':' then bad
      else
        let hr := twoDigits true [h1, h2]
        let mm := if hr.isSome then twoDigits true [m1, m2] else none
        let hv := (hr.map (·.1)).getD 0
        let mv := (mm.map (·.1)).getD 0
        if hv > 24 then .error (stampFault value ": time zone offset hour out of range")
        else if mv > 60 then .error (stampFault value ": time zone offset minute out of range")
        else if mm.isNone || (sign ≠ '+' && sign ≠ '-') then bad
        else
          let off : Int := ((hv * 60 + mv) * 60 : Nat)
          .ok (if sign = '-' then -off else off, rest)
    | _ => bad

/-- Reads a time stamp in the layout `2006-01-02T15:04:05Z07:00`. -/
def Stamp.parse (value : String) : Except String Stamp := do
  let cs := value.toList
  let year ← match cs with
    | a :: b :: c :: d :: _ =>
      if [a, b, c, d].all Char.isDigit then
        .ok (digitOf a * 1000 + digitOf b * 100 + digitOf c * 10 + digitOf d)
      else .error (layoutFault value cs "2006")
    | _ => .error (layoutFault value cs "2006")
  let cs ← literal value '-' (cs.drop 4)
  let (month, cs) ← field value "01" "month" true 1 12 cs
  let cs ← literal value '-' cs
  let (day, cs) ← match twoDigits true cs with
    | some p => .ok p
    | none => .error (layoutFault value cs "02")
  let cs ← literal value 'T' cs
  let (hour, cs) ← field value "15" "hour" false 0 23 cs
  let cs ← literal value ':' cs
  let (minute, cs) ← field value "04" "minute" true 0 59 cs
  let cs ← literal value ':' cs
  let (second, cs) ← field value "05" "second" true 0 59 cs
  let (nano, cs) := fraction cs
  let (offset, cs) ← zoneOf value cs
  if !cs.isEmpty then
    throw (stampFault value (": extra text: " ++ quoteText (String.ofList cs)))
  if day < 1 || day > daysIn month year then
    throw (stampFault value ": day out of range")
  let secs := daysOfCivil year month day * 86400 + (hour * 3600 + minute * 60 + second : Nat) - offset
  pure ⟨secs * 1000000000 + nano, offset⟩

end ConfigTables.Time
