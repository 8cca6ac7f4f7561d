/-!
Points in time and their RFC 3339 text in UTC.
-/

namespace DhcpDecoder

structure Timestamp where
  seconds : Int
  nanos : Nat
  deriving DecidableEq, Repr, Inhabited

namespace Timestamp

def ofNanos (ns : Int) : Timestamp :=
  ⟨ns / 1000000000, (ns % 1000000000).toNat⟩

/-- The timestamp of `seconds` and `nanos` nanoseconds, the nanoseconds carried into seconds when
there are a billion or more. -/
def ofParts (seconds : Int) (nanos : Nat) : Timestamp :=
  ⟨seconds + (nanos / 1000000000 : Nat), nanos % 1000000000⟩

/-- The timestamp of `seconds` and `nanos` nanoseconds, either of them negative; nanoseconds outside
a second are carried into the seconds, rounding down. -/
def ofUnix (seconds nanos : Int) : Timestamp :=
  ⟨seconds + nanos / 1000000000, (nanos % 1000000000).toNat⟩

def zero : Timestamp := ⟨-62135596800, 0⟩

def isZero (t : Timestamp) : Bool := t == zero

/-- How many seconds before the epoch a clock of 64-bit seconds starts counting: its seconds run
from there for 2 ^ 64 seconds. -/
def clockStart : Int := 9223372028715321600

/-- The timestamp of `seconds` and `nanos` nanoseconds as a clock of 64-bit seconds holds it:
nanoseconds outside a second are carried into the seconds, rounding down, and the seconds wrap
around within the clock's span. -/
def ofClock (seconds nanos : Int) : Timestamp :=
  let t := ofUnix seconds nanos
  ⟨(t.seconds + clockStart) % 18446744073709551616 - clockStart, t.nanos⟩

/-- The date (year, month, day) of a day count since 1970-01-01 in the proleptic Gregorian calendar.
-/
def civil (days : Int) : Int × Nat × Nat :=
  let z := days + 719468
  let era := z / 146097
  let doe := (z - era * 146097).toNat
  let yoe := (doe - doe / 1460 + doe / 36524 - doe / 146096) / 365
  let doy := doe - (365 * yoe + yoe / 4 - yoe / 100)
  let mp := (5 * doy + 2) / 153
  let d := doy - (153 * mp + 2) / 5 + 1
  let m := if mp < 10 then mp + 3 else mp - 9
  let y := (yoe : Int) + era * 400
  (if m ≤ 2 then y + 1 else y, m, d)

def padded (width n : Nat) : String :=
  let s := toString n
  String.ofList (List.replicate (width - s.length) '0') ++ s

/-- The nanoseconds as a fraction: a point and up to nine digits without trailing zeros, or nothing
when they are zero. -/
def fraction (nanos : Nat) : String :=
  if nanos = 0 then ""
  else
    let digits := (padded 9 nanos).toList
    "." ++ String.ofList (digits.reverse.dropWhile (· = '0')).reverse

def rfc3339 (t : Timestamp) : String :=
  let days := t.seconds / 86400
  let secs := (t.seconds % 86400).toNat
  let (y, m, d) := civil days
  let yearText := if y < 0 then "-" ++ padded 4 y.natAbs else padded 4 y.toNat
  yearText ++ "-" ++ padded 2 m ++ "-" ++ padded 2 d ++ "T" ++ padded 2 (secs / 3600) ++ ":"
    ++ padded 2 (secs / 60 % 60) ++ ":" ++ padded 2 (secs % 60) ++ fraction t.nanos ++ "Z"

def year (t : Timestamp) : Int := (civil (t.seconds / 86400)).1

def fourDigitYear (t : Timestamp) : Bool := 0 ≤ t.year && t.year ≤ 9999

end Timestamp

end DhcpDecoder
