import StreamingChat.Calendar.Instant
import StreamingChat.Text.Blank

/-!
The notations of a timestamp: RFC 3339 text with an offset, and a civil date and time without one,
which counts as UTC. The first is strict about the number of digits; the second lets a number
have fewer, allows blanks before it, and takes a signed year of any length.
-/

namespace StreamingChat.Calendar

/-- What a timestamp says on its face. Second 60 is a leap second. -/
structure Civil where
  date : Date
  hour : Nat
  minute : Nat
  second : Nat
  nanos : Nat
  deriving DecidableEq, Repr

namespace Civil

def isValid (c : Civil) : Bool :=
  c.date.isValid && c.hour ≤ 23 && c.minute ≤ 59 && c.second ≤ 60

/-- The instant the clock of UTC shows this. -/
def toInstant (c : Civil) : Instant :=
  let second := c.date.toDays * secondsPerDay + c.hour * 3600 + c.minute * 60
  if c.second = 60 then ⟨second + 59, nanosPerSecond + c.nanos⟩
  else ⟨second + c.second, c.nanos⟩

def instant? (c : Civil) : Option Instant :=
  if c.isValid then some c.toInstant else none

end Civil

/-- A scan takes a value off the front of a text. -/
abbrev Scan (α : Type) := List Char → Option (α × List Char)

namespace Timestamp

/-- A number of `least` to `most` digits, as many as there are. -/
def number (least most : Nat) : Scan Nat := fun text =>
  let digits := (text.take most).takeWhile Char.isDigit
  if digits.length < least then none
  else some (Nat.ofDigitChars 10 digits 0, text.drop digits.length)

def mark (c : Char) : Scan Unit
  | [] => none
  | d :: rest => if d = c then some ((), rest) else none

/-- A fraction of at least one digit in nanoseconds; digits after the ninth are dropped. -/
def fraction : Scan Nat
  | '.' :: rest =>
    let digits := rest.takeWhile Char.isDigit
    if digits.isEmpty then none
    else
      let kept := digits.take 9
      some (Nat.ofDigitChars 10 kept 0 * Nat.pow 10 (9 - kept.length), rest.dropWhile Char.isDigit)
  | text => some (0, text)

/-- The letter or the blank between date and time. -/
def dateEnd : Scan Unit
  | c :: rest => if c = 'T' || c = 't' || c = ' ' then some ((), rest) else none
  | [] => none

/-- The sign of an offset; the minus sign of typography is one too. -/
def offsetSign : Scan Int
  | c :: rest =>
    if c = '+' then some (1, rest)
    else if c = '-' || c = '\u2212' then some (-1, rest)
    else none
  | [] => none

/-- An offset in seconds east of UTC. -/
def offset : Scan Int := fun text =>
  match text with
  | 'Z' :: rest | 'z' :: rest => some (0, rest)
  | _ => do
    let (sign, text) ← offsetSign text
    let (hours, text) ← number 2 2 text
    let ((), text) ← mark ':' text
    let (minutes, text) ← number 2 2 text
    if hours ≤ 23 ∧ minutes ≤ 59 then some (sign * (hours * 3600 + minutes * 60 : Nat), text)
    else none

/-- Text in the form of RFC 3339. -/
def withOffset (text : List Char) : Option Instant := do
  let (year, text) ← number 4 4 text
  let ((), text) ← mark '-' text
  let (month, text) ← number 2 2 text
  let ((), text) ← mark '-' text
  let (day, text) ← number 2 2 text
  let ((), text) ← dateEnd text
  let (hour, text) ← number 2 2 text
  let ((), text) ← mark ':' text
  let (minute, text) ← number 2 2 text
  let ((), text) ← mark ':' text
  let (second, text) ← number 2 2 text
  let (nanos, text) ← fraction text
  let (east, text) ← offset text
  if text.isEmpty then
    let t ← (⟨⟨year, month, day⟩, hour, minute, second, nanos⟩ : Civil).instant?
    return { t with seconds := t.seconds - east }
  else none

/-- A number of one or two digits after any blanks. -/
def looseNumber : Scan Nat := fun text =>
  number 1 2 (Text.trimStart text)

/-- A year after any blanks: one to four digits, or any number of them after a sign. -/
def looseYear : Scan Int := fun text =>
  match Text.trimStart text with
  | '-' :: rest => (number 1 rest.length rest).map fun (n, rest) => (-(n : Int), rest)
  | '+' :: rest => (number 1 rest.length rest).map fun (n, rest) => (Int.ofNat n, rest)
  | text => (number 1 4 text).map fun (n, rest) => (Int.ofNat n, rest)

/-- What stands between the date and the time of a text without an offset. -/
inductive Separator where
  | letter
  | blanks

def separator : Separator → Scan Unit
  | .letter, text => mark 'T' text
  | .blanks, text => some ((), Text.trimStart text)

/-- Text without an offset. -/
def withoutOffset (between : Separator) (text : List Char) : Option Instant := do
  let (year, text) ← looseYear text
  let ((), text) ← mark '-' text
  let (month, text) ← looseNumber text
  let ((), text) ← mark '-' text
  let (day, text) ← looseNumber text
  let ((), text) ← separator between text
  let (hour, text) ← looseNumber text
  let ((), text) ← mark ':' text
  let (minute, text) ← looseNumber text
  let ((), text) ← mark ':' text
  let (second, text) ← looseNumber text
  let (nanos, text) ← fraction text
  if text.isEmpty then (⟨⟨year, month, day⟩, hour, minute, second, nanos⟩ : Civil).instant?
  else none

/-- The instant a text stands for, blanks at its ends apart. -/
def ofText? (text : String) : Option Instant :=
  let text := Text.trimChars text.toList
  withOffset text <|> withoutOffset .letter text <|> withoutOffset .blanks text

end Timestamp

end StreamingChat.Calendar
