/-!
# Calendar time

Instants are nanoseconds since 1970-01-01 00:00:00 UTC. The calendar is the proleptic
Gregorian one; days are converted to dates by the usual era arithmetic (400-year cycles of
146097 days). Instants are written in UTC, either as RFC 3339 with the fraction's trailing
zeros dropped (`2023-11-14T22:13:20.5Z`) or as date and time separated by a blank
(`2023-11-14 22:13:20`).
-/

namespace ConfigTables.Time

/-- The date of a day number counted from 1970-01-01: year, month (1 to 12), day (1 to 31). -/
def civilOfDays (z : Int) : Int × Nat × Nat :=
  let z := z + 719468
  let era := z / 146097
  let doe := (z - era * 146097).toNat
  let yoe := (doe - doe / 1460 + doe / 36524 - doe / 146096) / 365
  let y := (yoe : Int) + era * 400
  let doy := doe - (365 * yoe + yoe / 4 - yoe / 100)
  let mp := (5 * doy + 2) / 153
  let d := doy - (153 * mp + 2) / 5 + 1
  let m := if mp < 10 then mp + 3 else mp - 9
  (if m ≤ 2 then y + 1 else y, m, d)

/-- A number written with at least `width` digits. -/
def padded (width : Nat) (n : Nat) : String :=
  let s := toString n
  String.ofList (List.replicate (width - s.length) '0') ++ s

/-- The parts of an instant: date, hour, minute, second and nanosecond. -/
def partsOf (ns : Int) : (Int × Nat × Nat) × Nat × Nat × Nat × Nat :=
  let secs := ns / 1000000000
  let nano := (ns % 1000000000).toNat
  let days := secs / 86400
  let sod := (secs % 86400).toNat
  (civilOfDays days, sod / 3600, sod / 60 % 60, sod % 60, nano)

/-- The date and time of an instant, `YYYY-MM-DD hh:mm:ss`, in UTC. -/
def dateTimeText (ns : Int) : String :=
  let ((y, mo, d), h, mi, s, _) := partsOf ns
  padded 4 y.toNat ++ "-" ++ padded 2 mo ++ "-" ++ padded 2 d ++ " " ++ padded 2 h ++ ":" ++
    padded 2 mi ++ ":" ++ padded 2 s

/-- An instant in RFC 3339 with nanoseconds, trailing zeros of the fraction dropped. -/
def rfc3339Nano (ns : Int) : String :=
  let ((y, mo, d), h, mi, s, nano) := partsOf ns
  let frac :=
    if nano = 0 then ""
    else "." ++ String.ofList ((padded 9 nano).toList.reverse.dropWhile (· = '0')).reverse
  padded 4 y.toNat ++ "-" ++ padded 2 mo ++ "-" ++ padded 2 d ++ "T" ++ padded 2 h ++ ":" ++
    padded 2 mi ++ ":" ++ padded 2 s ++ frac ++ "Z"

/-- The clock time of day of an instant, `hh:mm:ss.mmm`. -/
def clockText (ns : Int) : String :=
  let (_, h, mi, s, nano) := partsOf ns
  padded 2 h ++ ":" ++ padded 2 mi ++ ":" ++ padded 2 s ++ "." ++ padded 3 (nano / 1000000)

end ConfigTables.Time
