import Syfrah.Lib.Text

/-!
# Time stamps of containers and processes

Unix times as dates in text and back. The integers of the source do not overflow at the times that its
types can hold.
-/

namespace Syfrah

namespace Compute

/-- The date of a day, counted from 1970-01-01. Both runtimes have this function. -/
def daysToYmd (days : ℕ) : ℕ × ℕ × ℕ :=
  let z : ℤ := days + 719468
  let era := (if 0 ≤ z then z else z - 146096).tdiv 146097
  let doe := (z - era * 146097).toNat
  let yoe := (doe - doe / 1460 + doe / 36524 - doe / 146096) / 365
  let y : ℤ := yoe + era * 400
  let doy := doe - (365 * yoe + yoe / 4 - yoe / 100)
  let mp := (5 * doy + 2) / 153
  let d := doy - (153 * mp + 2) / 5 + 1
  let m := if mp < 10 then mp + 3 else mp - 9
  let y := if m ≤ 2 then y + 1 else y
  (y.toNat, m, d)

def ymdToDays (year month day : ℕ) : ℕ :=
  let y : ℤ := (if month ≤ 2 then year - 1 else year : ℕ)
  let era := (if 0 ≤ y then y else y - 399).tdiv 400
  let yoe := (y - era * 400).toNat
  let doy := (153 * (if 2 < month then month - 3 else month + 9) + 2) / 5 + day - 1
  let doe := yoe * 365 + yoe / 4 - yoe / 100 + doy
  (era * 146097 + doe - 719468).toNat

/-- A decimal number with zeros in front up to a width. -/
def padded (width n : ℕ) : String := String.ofList ((Nat.toDigits 10 n).leftpad width '0')

/-- A time in seconds as text, which `now_iso8601` and `chrono_now_iso8601` write. -/
def iso8601 (now : ℕ) : String :=
  let (year, month, day) := daysToYmd (now / 86400)
  let rem := now % 86400
  s!"{padded 4 year}-{padded 2 month}-{padded 2 day}T{padded 2 (rem / 3600)}:{padded 2 (rem % 3600 / 60)}:" ++
    s!"{padded 2 (rem % 60)}Z"

def chronoNowIso8601 (now : UInt64) : String := iso8601 now.toNat

def nowIso8601 (now : UInt64) : String := iso8601 now.toNat

def split (c : Char) (s : List Char) : List String := (s.splitOn c).map String.ofList

def trimEndMatches (c : Char) (s : String) : List Char := (s.toList.reverse.dropWhile (· == c)).reverse

/-- Parts that are no numbers are left out. -/
def parseIso8601ToUnix (s : String) : Option ℕ :=
  match split 'T' s.toList with
  | [date, time] =>
    let dateParts := (split '-' date.toList).filterMap (Text.parseUnsigned (2 ^ 64))
    let timeParts := (split ':' (trimEndMatches 'Z' time)).filterMap (Text.parseUnsigned (2 ^ 64))
    match dateParts, timeParts with
    | [y, m, d], [hours, minutes, seconds] =>
      some (ymdToDays y m d * 86400 + hours * 3600 + minutes * 60 + seconds)
    | _, _ => none
  | _ => none

end Compute

end Syfrah
