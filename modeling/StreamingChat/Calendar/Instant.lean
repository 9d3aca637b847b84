import StreamingChat.Calendar.Date

/-!
Points in time, counted from 1970-01-01T00:00:00Z, and their text. A leap second is the second
before it with at least a billion nanoseconds.
-/

namespace StreamingChat.Calendar

structure Instant where
  seconds : Int
  nanos : Nat
  deriving DecidableEq, Repr

def secondsPerDay : Int := 86400

def nanosPerSecond : Nat := 1000000000

/-- The digits of a number with zeros before them up to a width. -/
def padded (width n : Nat) : List Char :=
  let digits := Nat.toDigits 10 n
  List.replicate (width - digits.length) '0' ++ digits

namespace Instant

/-- The instants from the first to the last day of the calendar. -/
def inRange (seconds : Int) : Bool :=
  (⟨Date.minYear, 1, 1⟩ : Date).toDays * secondsPerDay ≤ seconds &&
    seconds < ((⟨Date.maxYear, 12, 31⟩ : Date).toDays + 1) * secondsPerDay

/-- Milliseconds since 1970, rounded down to whole seconds. -/
def ofMillis? (millis : Int) : Option Instant :=
  let seconds := millis / 1000
  if inRange seconds then some ⟨seconds, (millis % 1000).toNat * 1000000⟩ else none

/-- Four digits for the years 0 to 9999, otherwise a sign and at least four. -/
def yearChars (year : Int) : List Char :=
  if 0 ≤ year ∧ year ≤ 9999 then padded 4 year.toNat
  else (if year < 0 then '-' else '+') :: padded 4 year.natAbs

/-- No fraction, or three, six or nine digits of it, whichever is exact. -/
def fractionChars (nanos : Nat) : List Char :=
  if nanos = 0 then []
  else if nanos % 1000000 = 0 then '.' :: padded 3 (nanos / 1000000)
  else if nanos % 1000 = 0 then '.' :: padded 6 (nanos / 1000)
  else '.' :: padded 9 nanos

/-- The RFC 3339 text in UTC. -/
def chars (t : Instant) : List Char :=
  let date := Date.ofDays (t.seconds / secondsPerDay)
  let second := (t.seconds % secondsPerDay).toNat
  let leap := t.nanos / nanosPerSecond
  yearChars date.year ++ '-' :: padded 2 date.month ++ '-' :: padded 2 date.day ++
    'T' :: padded 2 (second / 3600) ++ ':' :: padded 2 (second / 60 % 60) ++
    ':' :: padded 2 (second % 60 + leap) ++ fractionChars (t.nanos % nanosPerSecond) ++ ['Z']

def text (t : Instant) : String :=
  String.ofList t.chars

end Instant

end StreamingChat.Calendar
