/-!
The double nearest to a fraction, found in exact arithmetic: the quotient is scaled until it has
53 bits (fewer for the smallest doubles), rounded half to even, and packed.
-/

namespace StreamingChat.Decimal

/-- The quotient rounded to the nearest natural number, a half to the even one. -/
def roundHalfEven (num den : Nat) : Nat :=
  let q := num / den
  let r := num % den
  if 2 * r < den then q
  else if den < 2 * r then q + 1
  else if q % 2 = 0 then q else q + 1

/-- The fraction times a power of ten. -/
def timesTenPow (num den : Nat) (e : Int) : Nat × Nat :=
  if 0 ≤ e then (num * Nat.pow 10 e.toNat, den) else (num, den * Nat.pow 10 (-e).toNat)

/-- The fraction times a power of two. -/
def timesTwoPow (num den : Nat) (e : Int) : Nat × Nat :=
  if 0 ≤ e then (num * Nat.pow 2 e.toNat, den) else (num, den * Nat.pow 2 (-e).toNat)

/-- The exponent `q` for which the fraction lies in `[2 ^ (q + 52), 2 ^ (q + 53))`, but never less
than `-1074`, the exponent of the smallest doubles. -/
def binaryExponent (num den : Nat) : Int :=
  let q : Int := (num.log2 : Int) - den.log2 - 52
  let scaled := timesTwoPow num den (-(q + 52))
  max (if scaled.1 < scaled.2 then q - 1 else q) (-1074)

/-- The bits of the double nearest to a fraction that is not negative. A carry out of the 53 bits
raises the exponent field by itself, and what is beyond the largest double is infinite. -/
def nearestBits (num den : Nat) : Nat :=
  if num = 0 then 0
  else
    let q := binaryExponent num den
    let scaled := timesTwoPow num den (-q)
    min ((q + 1074).toNat * Nat.pow 2 52 + roundHalfEven scaled.1 scaled.2) (2047 * Nat.pow 2 52)

/-- The double nearest to a fraction that is not negative. -/
def nearest (num den : Nat) : Float :=
  Float.ofBits (nearestBits num den).toUInt64

/-- The double nearest to `coefficient * 10 ^ exponent`. A number of more than 310 integer digits
is infinite, and one with more than 350 zeros after the point is zero. -/
def nearestDecimal (coefficient : Nat) (exponent : Int) : Float :=
  let size : Int := (Nat.toDigits 10 coefficient).length + exponent
  if coefficient = 0 || size < -350 then 0.0
  else if 310 < size then Float.ofBits 0x7FF0000000000000
  else
    let scaled := timesTenPow coefficient 1 exponent
    nearest scaled.1 scaled.2

/-- Twice the distance of the rounded quotient from the exact one is at most the divisor. -/
theorem roundHalfEven_near (num den : Nat) (h : 0 < den) :
    2 * num ≤ 2 * (roundHalfEven num den * den) + den ∧
      2 * (roundHalfEven num den * den) ≤ 2 * num + den := by
  have hdiv : den * (num / den) + num % den = num := Nat.div_add_mod num den
  have hmod : num % den < den := Nat.mod_lt num h
  have hmul : num / den * den = den * (num / den) := Nat.mul_comm _ _
  have hsucc : (num / den + 1) * den = den * (num / den) + den := by
    rw [Nat.add_mul, Nat.one_mul, hmul]
  unfold roundHalfEven
  simp only
  split
  · rw [hmul]; omega
  · split
    · rw [hsucc]; omega
    · split
      · rw [hmul]; omega
      · rw [hsucc]; omega

end StreamingChat.Decimal
