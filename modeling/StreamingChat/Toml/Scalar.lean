import StreamingChat.Calendar.Timestamp
import StreamingChat.Decimal.Nearest
import StreamingChat.Text.Digits
import StreamingChat.Toml.Basic

/-!
The values of TOML that are a single word: booleans, whole numbers in four bases, decimals, and
dates and times.
-/

namespace StreamingChat.Toml.Scalar

open StreamingChat.Calendar (Date Scan padded)
open StreamingChat.Calendar.Timestamp (fraction mark number)

/-- Digits of a base, in which single low lines may stand between two digits. -/
def digits? (base : Nat) (text : List Char) : Option (List Char) :=
  let groups := Text.splitAt '_' text
  if groups.all fun g => !g.isEmpty && g.all (Text.isDigitOf base) then some groups.flatten
  else none

/-- Decimal digits that begin with a zero only if they are nothing else. -/
def whole? (text : List Char) : Option (List Char) :=
  (digits? 10 text).filter fun digits => digits.head? != some '0' || digits.length == 1

/-- Splits off a sign; whether it is a minus. -/
def signed : List Char → Bool × List Char
  | '-' :: rest => (true, rest)
  | '+' :: rest => (false, rest)
  | text => (false, text)

/-- Integers have 64 bits and a sign. -/
def inRange (n : Int) : Bool :=
  -9223372036854775808 ≤ n && n < 9223372036854775808

/-- Only decimal integers have a sign. -/
def integer? (text : List Char) : Option Int :=
  Option.filter inRange <|
    match text with
    | '0' :: 'x' :: rest => (digits? 16 rest).map fun ds => (Text.valueOf 16 ds : Int)
    | '0' :: 'o' :: rest => (digits? 8 rest).map fun ds => (Text.valueOf 8 ds : Int)
    | '0' :: 'b' :: rest => (digits? 2 rest).map fun ds => (Text.valueOf 2 ds : Int)
    | _ =>
      let parts := signed text
      (whole? parts.2).map fun ds =>
        let n : Int := Text.valueOf 10 ds
        if parts.1 then -n else n

/-- The power of ten that an exponent names. -/
def power? (text : List Char) : Option Int :=
  let parts := signed text
  (digits? 10 parts.2).map fun ds =>
    let n : Int := Text.valueOf 10 ds
    if parts.1 then -n else n

/-- A decimal without its sign has a fraction, an exponent or both. -/
def unsigned? (text : List Char) : Option Float :=
  let isMark := fun c => c == 'e' || c == 'E'
  let exponent := (text.dropWhile fun c => !isMark c).drop 1
  let power := if text.any isMark then power? exponent else some 0
  match Text.splitAt '.' (text.takeWhile fun c => !isMark c) with
  | [whole] => do
    let ds ← whole? whole
    let n ← if text.any isMark then power else none
    return Decimal.nearestDecimal (Text.valueOf 10 ds) n
  | [whole, fraction] => do
    let ds ← whole? whole
    let fs ← digits? 10 fraction
    let n ← power
    return Decimal.nearestDecimal (Text.valueOf 10 (ds ++ fs)) (n - fs.length)
  | _ => none

/-- A number beyond the largest double is refused, but one beyond the smallest is infinite. -/
def decimal? (text : List Char) : Option Float :=
  let parts := signed text
  let sign := fun x : Float => if parts.1 then -x else x
  if parts.2 = ['i', 'n', 'f'] then some (sign (1.0 / 0.0))
  else if parts.2 = ['n', 'a', 'n'] then some (sign (0.0 / 0.0))
  else (unsigned? parts.2).bind fun x => if x.isInf && !parts.1 then none else some (sign x)

/-- The text of a date, if it is one of the calendar. -/
def day : Scan (List Char) := fun text => do
  let (year, text) ← number 4 4 text
  let ((), text) ← mark '-' text
  let (month, text) ← number 2 2 text
  let ((), text) ← mark '-' text
  let (day, text) ← number 2 2 text
  if (⟨year, month, day⟩ : Date).isValid then
    some (padded 4 year ++ '-' :: padded 2 month ++ '-' :: padded 2 day, text)
  else none

/-- The normal text of a fraction in nanoseconds has no zeros at its end. -/
def fractionChars (nanos : Nat) : List Char :=
  if nanos = 0 then [] else '.' :: ((padded 9 nanos).reverse.dropWhile (· == '0')).reverse

def time : Scan (List Char) := fun text => do
  let (hour, text) ← number 2 2 text
  let ((), text) ← mark ':' text
  let (minute, text) ← number 2 2 text
  let ((), text) ← mark ':' text
  let (second, text) ← number 2 2 text
  let (nanos, text) ← fraction text
  if hour ≤ 23 ∧ minute ≤ 59 ∧ second ≤ 60 then
    some (padded 2 hour ++ ':' :: padded 2 minute ++ ':' :: padded 2 second ++
      fractionChars nanos, text)
  else none

/-- An offset is optional; one of nothing has a plus. -/
def offset? (text : List Char) : Option (List Char) :=
  match text with
  | [] => some []
  | ['Z'] | ['z'] => some ['Z']
  | sign :: rest => do
    let (hours, rest) ← number 2 2 rest
    let ((), rest) ← mark ':' rest
    let (minutes, rest) ← number 2 2 rest
    if (sign = '+' ∨ sign = '-') ∧ rest = [] ∧ hours ≤ 23 ∧ minutes ≤ 59 then
      let sign := if hours = 0 ∧ minutes = 0 then '+' else sign
      some (sign :: padded 2 hours ++ ':' :: padded 2 minutes)
    else none

/-- The normal text of a date, a time, or a date and a time with or without an offset. -/
def date? (text : List Char) : Option (List Char) :=
  match day text with
  | some (day, []) => some day
  | some (day, c :: rest) =>
    if c = 'T' ∨ c = 't' ∨ c = ' ' then do
      let (time, rest) ← time rest
      let offset ← offset? rest
      return day ++ 'T' :: time ++ offset
    else none
  | none =>
    match time text with
    | some (time, []) => some time
    | _ => none

def ofWord? (text : List Char) : Option Toml :=
  if text = ['t', 'r', 'u', 'e'] then some (.bool true)
  else if text = ['f', 'a', 'l', 's', 'e'] then some (.bool false)
  else
    (date? text).map (fun chars => Toml.date (String.ofList chars)) <|>
      (integer? text).map Toml.integer <|> (decimal? text).map Toml.decimal

end StreamingChat.Toml.Scalar
