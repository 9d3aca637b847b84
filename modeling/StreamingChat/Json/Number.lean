import StreamingChat.Decimal.Shortest
import StreamingChat.Json.Basic

/-!
The text of JSON numbers. An integer is written with its digits and a double with the fewest
digits that read back, always with a point or an exponent. A decimal is read in two roundings:
the digits that fit 64 bits become a double, and that is multiplied or divided by the double
nearest to the power of ten.
-/

namespace StreamingChat.Json.Number

def zeros (n : Nat) : List Char :=
  List.replicate n '0'

def signChars (negative : Bool) : List Char :=
  if negative then ['-'] else []

/-- Positional from five zeros after the point up to sixteen digits before it, otherwise with an
exponent that carries its sign. -/
def decimalChars (digits : List Char) (exponent : Int) : List Char :=
  let point : Int := digits.length + exponent
  if 0 ≤ exponent ∧ point ≤ 16 then digits ++ zeros exponent.toNat ++ ['.', '0']
  else if 0 < point ∧ point ≤ 16 then
    digits.take point.toNat ++ '.' :: digits.drop point.toNat
  else if -5 < point ∧ point ≤ 0 then '0' :: '.' :: zeros (-point).toNat ++ digits
  else
    let mantissa :=
      match digits with
      | first :: second :: rest => first :: '.' :: second :: rest
      | _ => digits
    let power := point - 1
    mantissa ++ 'e' :: (if power < 0 then '-' else '+') :: Nat.toDigits 10 power.natAbs

def integerChars (n : Int) : List Char :=
  signChars (decide (n < 0)) ++ Nat.toDigits 10 n.natAbs

def floatChars (x : Float) : List Char :=
  let b := Decimal.Binary.ofFloat x
  signChars b.negative ++
    if b.mantissa = 0 then ['0', '.', '0']
    else
      let shortest := b.shortest
      decimalChars shortest.1 shortest.2

def chars : Number → List Char
  | .integer n _ => integerChars n
  | .decimal x _ => floatChars x

def digitValue (c : Char) : Nat :=
  c.toNat - 48

/-- Appends digits to a significand as long as it fits 64 bits; with the number of digits taken. -/
def gather (significand : Nat) : List Char → Nat × Nat
  | [] => (significand, 0)
  | c :: rest =>
    let next := 10 * significand + digitValue c
    if next < 18446744073709551616 then
      let later := gather next rest
      (later.1, later.2 + 1)
    else (significand, 0)

/-- Divides by a power of ten, in steps of at most `10 ^ 308`. -/
def divideByTenPow (x : Float) (power : Nat) : Float :=
  if power ≤ 308 then x / Decimal.nearestDecimal 1 power
  else if x == 0 then x
  else divideByTenPow (x / Decimal.nearestDecimal 1 308) (power - 308)
termination_by power

/-- Refuses what is too large for a double. -/
def scale? (significand : Nat) (exponent : Int) : Option Float :=
  let x := significand.toUInt64.toFloat
  if exponent < 0 then some (divideByTenPow x (-exponent).toNat)
  else if 308 < exponent then if x == 0 then some x else none
  else some (x * Decimal.nearestDecimal 1 exponent)

def ofFloat? (x : Float) : Option Number :=
  if h : x.isFinite = true then some (.decimal x h) else none

/-- A number whose integer part, fraction and exponent have been told apart. -/
structure Parts where
  negative : Bool
  whole : List Char
  fraction : List Char
  exponent : Int
  /-- Neither a fraction nor an exponent was written. -/
  plain : Bool

def Parts.float? (p : Parts) : Option Float :=
  let whole := gather 0 p.whole
  let all := gather whole.1 p.fraction
  let dropped : Int := (p.whole.length - whole.2 : Nat)
  (scale? all.1 (dropped - all.2 + p.exponent)).map fun x => if p.negative then -x else x

/-- A plain number that fits 64 bits is an integer, except for minus zero. -/
def Parts.number? (p : Parts) : Option Number :=
  let size : Int := Nat.ofDigitChars 10 p.whole 0
  let n := if p.negative then -size else size
  if h : p.plain = true ∧ ¬ (p.negative = true ∧ n = 0) ∧ Number.Fits n then
    some (.integer n h.2.2)
  else p.float?.bind ofFloat?

/-- The digits of an exponent with their sign. -/
def exponent? : List Char → Option Int
  | '-' :: digits => natural? digits |>.map fun n => -(n : Int)
  | '+' :: digits => natural? digits |>.map Int.ofNat
  | digits => natural? digits |>.map Int.ofNat
where
  natural? (digits : List Char) : Option Nat :=
    if digits.isEmpty || !digits.all Char.isDigit then none else some (Nat.ofDigitChars 10 digits 0)

/-- Splits what follows the fraction. -/
def exponentPart? : List Char → Option (Option Int)
  | [] => some none
  | c :: rest => if c = 'e' || c = 'E' then some <$> exponent? rest else none

/-- Splits what follows the integer part. -/
def fractionPart? : List Char → Option (List Char × Option Int)
  | '.' :: rest =>
    let digits := rest.takeWhile Char.isDigit
    if digits.isEmpty then none
    else (digits, ·) <$> exponentPart? (rest.dropWhile Char.isDigit)
  | rest => ([], ·) <$> exponentPart? rest

/-- Zero is the only integer part that begins with a zero. -/
def unsignedParts? (negative : Bool) (text : List Char) : Option Parts :=
  let whole := text.takeWhile Char.isDigit
  let rest := text.dropWhile Char.isDigit
  if whole.isEmpty || (whole.head? == some '0' && whole != ['0']) then none
  else (fractionPart? rest).map fun (fraction, exponent) =>
    { negative, whole, fraction
      exponent := exponent.getD 0
      plain := fraction.isEmpty && exponent.isNone }

def parts? : List Char → Option Parts
  | '-' :: rest => unsignedParts? true rest
  | text => unsignedParts? false text

def ofChars? (text : List Char) : Option Number :=
  (parts? text).bind Parts.number?

end StreamingChat.Json.Number
