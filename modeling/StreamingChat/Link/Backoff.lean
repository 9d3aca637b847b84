import StreamingChat.Calendar.Moment
import StreamingChat.Decimal.Shortest

/-!
How long to wait before the next attempt to connect: twice as long each time up to a bound, and a
little more or less by chance so that clients do not come back all at once.
-/

namespace StreamingChat.Link

open StreamingChat.Calendar (nanosPerMilli nanosPerSecond)

/-- Keeps a number between two bounds; what is not a number stays so. -/
def clampFloat (low high x : Float) : Float :=
  if x < low then low else if high < x then high else x

/-- A duration in seconds. -/
def secondsOfNanos (nanos : Nat) : Float :=
  (nanos / nanosPerSecond).toUInt64.toFloat + (nanos % nanosPerSecond).toUInt64.toFloat / 1e9

/-- A finite duration that is not negative in nanoseconds, rounded half to even. -/
def nanosOfSeconds (x : Float) : Nat :=
  let b := Decimal.Binary.ofFloat x
  let scaled := Decimal.timesTwoPow (b.mantissa * nanosPerSecond) 1 b.exponent
  Decimal.roundHalfEven scaled.1 scaled.2

/-! ## Words

Numbers of a fixed count of bits, in operations that never drop a bit unnoticed. -/

namespace Word

variable {width : Nat}

/-- Shifts to the left by less than the width. -/
def shiftLeft? (x : BitVec width) (places : Nat) : Option (BitVec width) :=
  if places < width then some (x <<< places) else none

/-- The product, or the largest word if the product does not fit. -/
def mulSaturating (x y : BitVec width) : BitVec width :=
  if x.umulOverflow y then .allOnes width else x * y

def least (x y : BitVec width) : BitVec width :=
  if x ≤ y then x else y

/-- The same number in another width, if it fits. -/
def narrow? (narrower : Nat) (x : BitVec width) : Option (BitVec narrower) :=
  if x.toNat < Nat.pow 2 narrower then some (.ofNat narrower x.toNat) else none

theorem toNat_allOnes (width : Nat) : (BitVec.allOnes width).toNat = Nat.pow 2 width - 1 :=
  BitVec.toNat_allOnes

theorem toNat_shiftLeft_one {places : Nat} (inside : places < width) :
    ((shiftLeft? (1 : BitVec width) places).getD (.allOnes width)).toNat = Nat.pow 2 places := by
  have fits : Nat.pow 2 places < Nat.pow 2 width := Nat.pow_lt_pow_right (by decide) inside
  have wide : 1 < Nat.pow 2 width := Nat.one_lt_two_pow (by omega)
  have one : (1 : BitVec width).toNat = 1 := Nat.mod_eq_of_lt wide
  rw [shiftLeft?, if_pos inside, Option.getD_some, BitVec.toNat_shiftLeft, one, Nat.one_shiftLeft]
  exact Nat.mod_eq_of_lt fits

theorem toNat_mulSaturating (x y : BitVec width) :
    (mulSaturating x y).toNat = min (x.toNat * y.toNat) (Nat.pow 2 width - 1) := by
  have positive : 0 < Nat.pow 2 width := Nat.two_pow_pos width
  by_cases large : Nat.pow 2 width ≤ x.toNat * y.toNat
  · have overflow : x.umulOverflow y = true := decide_eq_true large
    rw [mulSaturating, if_pos overflow, toNat_allOnes]
    exact (Nat.min_eq_right (by omega)).symm
  · have fits : x.toNat * y.toNat < Nat.pow 2 width := Nat.lt_of_not_le large
    have no_overflow : x.umulOverflow y = false := decide_eq_false large
    rw [mulSaturating, no_overflow, if_neg Bool.false_ne_true, BitVec.toNat_mul]
    exact (Nat.mod_eq_of_lt fits).trans (Nat.min_eq_left (by omega)).symm

theorem toNat_least (x y : BitVec width) : (least x y).toNat = min x.toNat y.toNat := by
  unfold least
  split
  · rename_i le
    exact (Nat.min_eq_left le).symm
  · rename_i not_le
    exact (Nat.min_eq_right (Nat.le_of_not_le not_le)).symm

theorem toNat_narrow (narrower : Nat) (x : BitVec width) :
    ((narrow? narrower x).getD (.allOnes narrower)).toNat =
      min x.toNat (Nat.pow 2 narrower - 1) := by
  have positive : 0 < Nat.pow 2 narrower := Nat.two_pow_pos narrower
  unfold narrow?
  split
  · rename_i fits
    rw [Option.getD_some, BitVec.toNat_ofNat]
    exact (Nat.mod_eq_of_lt fits).trans (Nat.min_eq_left (by omega)).symm
  · rw [Option.getD_none, toNat_allOnes]
    exact (Nat.min_eq_right (by omega)).symm

end Word

/-- Durations are in nanoseconds. -/
structure Backoff where
  base : Nat
  max : Nat
  jitter : Float

namespace Backoff

/-- The bound is at least the base, and the jitter at most the whole delay. -/
def make (base max : Nat) (jitter : Float) : Backoff where
  base := base
  max := Nat.max max base
  jitter := clampFloat 0.0 1.0 jitter

/-- From here on doubling changes nothing: no delay in milliseconds has more bits. -/
def maxDoublings : Nat := 64

/-- The delay in whole milliseconds before chance has its say. It is computed in words of 128 bits
and handed on in one of 64. -/
def nominalMillis (b : Backoff) (retries : Nat) : Nat :=
  let factor := (Word.shiftLeft? (1 : BitVec 128) (min retries maxDoublings)).getD (.allOnes 128)
  let millis := Word.mulSaturating (.ofNat 128 (b.base / nanosPerMilli)) factor
  let capped := Word.least millis (.ofNat 128 (b.max / nanosPerMilli))
  ((Word.narrow? 64 capped).getD (.allOnes 64)).toNat

def nominal (b : Backoff) (retries : Nat) : Nat :=
  b.nominalMillis retries * nanosPerMilli

/-- The delay for a sample between -1 and 1. A delay that is not a number is none. -/
def delay (b : Backoff) (retries : Nat) (sample : Float) : Nat :=
  let scaled := secondsOfNanos (b.nominal retries) *
    (1.0 + b.jitter * clampFloat (-1.0) 1.0 sample)
  min (nanosOfSeconds (if 0.0 < scaled then scaled else 0.0)) b.max

theorem nominalMillis_le (b : Backoff) (retries : Nat) :
    b.nominalMillis retries ≤ b.max / nanosPerMilli := by
  rw [nominalMillis, Word.toNat_narrow, Word.toNat_least]
  apply Nat.le_trans (Nat.min_le_left _ _)
  apply Nat.le_trans (Nat.min_le_right _ _)
  exact Nat.mod_le _ _

theorem delay_le (b : Backoff) (retries : Nat) (sample : Float) :
    b.delay retries sample ≤ b.max :=
  Nat.min_le_right _ _

end Backoff

end StreamingChat.Link
