import StreamingChat.Decimal.Nearest

/-!
The shortest decimal that reads back as a given double. A double stands for the interval of
numbers that round to it; for one digit, two digits and so on, the two decimals next to the value
are tried, and the first that lies in the interval wins, of two the nearer one.
-/

namespace StreamingChat.Decimal

/-- The sign of a double and its value `mantissa * 2 ^ exponent`; the neighbour below a power of
two is only half as far as the one above. -/
structure Binary where
  negative : Bool
  mantissa : Nat
  exponent : Int
  narrowBelow : Bool

/-- Takes a finite double apart. -/
def Binary.ofFloat (x : Float) : Binary :=
  let bits := x.toBits.toNat
  let field : Nat := bits / Nat.pow 2 52 % Nat.pow 2 11
  let fraction : Nat := bits % Nat.pow 2 52
  let power : Nat := if field = 0 then 1 else field
  { negative := bits / Nat.pow 2 63 == 1
    mantissa := if field = 0 then fraction else fraction + Nat.pow 2 52
    exponent := (power : Int) - 1075
    narrowBelow := fraction == 0 && 1 < field }

/-- A decimal `digits * 10 ^ exponent`. -/
structure Scientific where
  digits : Nat
  exponent : Int

/-- The position of the leading decimal digit of a positive fraction: 0 for units. The factor
`10 ^ 400` lifts every positive double above one. -/
def leadingPlace (num den : Nat) : Int :=
  (Nat.toDigits 10 (num * Nat.pow 10 400 / den)).length - 401

/-- Whether `c` lies between the two bounds, all over one denominator. -/
def within (closed : Bool) (low high c : Nat) : Bool :=
  if closed then low ≤ c && c ≤ high else low < c && c < high

/-- The decimal of the grid `10 ^ place` that lies in the interval of `b` and is nearest to it,
an exact tie going to the even digit. -/
def Binary.onGrid? (b : Binary) (place : Int) : Option Scientific :=
  let unit := timesTwoPow 1 1 (b.exponent - 2)
  let scaled := timesTenPow unit.1 unit.2 (-place)
  let step := scaled.1
  let den := scaled.2
  let value := 4 * b.mantissa * step
  let low := (4 * b.mantissa - if b.narrowBelow then 1 else 2) * step
  let high := (4 * b.mantissa + 2) * step
  let closed := b.mantissa % 2 == 0
  let below := value / den
  let above := below + 1
  let fitsBelow := below != 0 && within closed low high (below * den)
  let fitsAbove := within closed low high (above * den)
  let nearerAbove := value - below * den > above * den - value ||
    (value - below * den == above * den - value && below % 2 == 1)
  if fitsBelow && (!fitsAbove || !nearerAbove) then some ⟨below, place⟩
  else if fitsAbove then some ⟨above, place⟩
  else none

/-- Tries `left` more grids, each ten times finer than the last. -/
def Binary.firstGrid (b : Binary) (place : Int) : Nat → Scientific
  | 0 => ⟨0, 0⟩
  | left + 1 =>
    match b.onGrid? place with
    | some s => s
    | none => b.firstGrid (place - 1) left

/-- The digits of a decimal as text with its zeros at the end taken into the exponent. -/
def Scientific.normal (s : Scientific) : List Char × Int :=
  let digits := Nat.toDigits 10 s.digits
  let kept := (digits.reverse.dropWhile (· == '0')).reverse
  (kept, s.exponent + (digits.length - kept.length : Nat))

/-- The digits and the exponent of the shortest decimal that reads back as the given positive
finite double; 17 digits always suffice. -/
def Binary.shortest (b : Binary) : List Char × Int :=
  let whole := timesTwoPow b.mantissa 1 b.exponent
  (b.firstGrid (leadingPlace whole.1 whole.2) 17).normal

end StreamingChat.Decimal
