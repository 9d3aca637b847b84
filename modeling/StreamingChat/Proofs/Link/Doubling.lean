import Mathlib.Algebra.Order.Ring.Nat
import StreamingChat.Config.Basic

/-!
# Delays double up to a bound

The nominal delay before an attempt to connect is the base doubled once for each attempt before it,
or the bound if that is less.  Both are any numbers of milliseconds that fit 64 bits.  The delay is
computed in words, with the doublings cut off; nothing of this shows in it, since the cut comes
where the bound has long been reached and no product of a base and a power up to there is too large
for its word.
-/

namespace StreamingChat

open StreamingChat.Calendar (nanosPerMilli)

namespace Link.Backoff

variable {b : Backoff} {retries : Nat}

/-- Below the cut no operation on words loses anything. -/
theorem nominalMillis_eq (base_fits : b.base / nanosPerMilli < 2 ^ 64)
    (max_fits : b.max / nanosPerMilli < 2 ^ 64) (retries : Nat) :
    b.nominalMillis retries =
      min (b.base / nanosPerMilli * 2 ^ min retries maxDoublings) (b.max / nanosPerMilli) := by
  have few : min retries maxDoublings < 128 := by
    apply Nat.lt_of_le_of_lt (Nat.min_le_right _ _)
    decide
  have base : (BitVec.ofNat 128 (b.base / nanosPerMilli)).toNat = b.base / nanosPerMilli :=
    Nat.mod_eq_of_lt (by omega)
  have bound : (BitVec.ofNat 128 (b.max / nanosPerMilli)).toNat = b.max / nanosPerMilli :=
    Nat.mod_eq_of_lt (by omega)
  rw [nominalMillis, Word.toNat_narrow, Word.toNat_least, Word.toNat_mulSaturating,
    Word.toNat_shiftLeft_one few, base, bound]
  have largest : b.max / nanosPerMilli ≤ Nat.pow 2 64 - 1 := Nat.le_pred_of_lt max_fits
  have larger : Nat.pow 2 64 - 1 ≤ Nat.pow 2 128 - 1 := by decide
  have same : Nat.pow 2 (min retries maxDoublings) = 2 ^ min retries maxDoublings := rfl
  rw [same]
  omega

/-- Once the doublings are cut off the bound has been reached. -/
theorem max_le_of_maxDoublings_le {base max : Nat} (positive : 1 ≤ base) (fits : max < 2 ^ 64)
    (many : maxDoublings ≤ retries) : max ≤ base * 2 ^ retries := by
  calc max ≤ 2 ^ maxDoublings := Nat.le_of_lt fits
    _ ≤ 2 ^ retries := Nat.pow_le_pow_right (by decide) many
    _ = 1 * 2 ^ retries := (Nat.one_mul _).symm
    _ ≤ base * 2 ^ retries := Nat.mul_le_mul_right _ positive

/-- The cut makes no difference. -/
theorem min_cut_eq {base max : Nat} (positive : 1 ≤ base) (fits : max < 2 ^ 64) (retries : Nat) :
    min (base * 2 ^ min retries maxDoublings) max = min (base * 2 ^ retries) max := by
  rcases Nat.le_total retries maxDoublings with few | many
  · rw [Nat.min_eq_left few]
  · rw [Nat.min_eq_right many,
      Nat.min_eq_right (max_le_of_maxDoublings_le positive fits (Nat.le_refl _)),
      Nat.min_eq_right (max_le_of_maxDoublings_le positive fits many)]

end Link.Backoff

namespace Config

open Link (Backoff)

variable {c : Config}

/-- In a valid configuration there is a delay, and the bound is not below it. -/
theorem delays_of_valid (valid : c.problem? = none) :
    1 ≤ c.reconnect.baseDelay ∧ c.reconnect.baseDelay ≤ c.reconnect.maxDelay := by
  unfold problem? at valid
  grind

theorem base_backoff (c : Config) : c.backoff.base / nanosPerMilli = c.reconnect.baseDelay :=
  Nat.mul_div_cancel _ (by decide)

theorem max_backoff (ordered : c.reconnect.baseDelay ≤ c.reconnect.maxDelay) :
    c.backoff.max / nanosPerMilli = c.reconnect.maxDelay := by
  have larger : c.backoff.max = c.reconnect.maxDelay * nanosPerMilli :=
    Nat.max_eq_left (Nat.mul_le_mul_right _ ordered)
  rw [larger]
  exact Nat.mul_div_cancel _ (by decide)

/-- The nominal delays of a valid configuration, whose delays fit 64 bits.  After `retries` attempts
the delay in milliseconds is the base times that power of two, or the bound if this is less, in
unbounded arithmetic.  It is at least a millisecond, it never becomes shorter, and from the
sixty-fourth attempt on it is the bound. -/
theorem nominal_doubles_to_bound (valid : c.problem? = none)
    (base_fits : c.reconnect.baseDelay < 2 ^ 64) (max_fits : c.reconnect.maxDelay < 2 ^ 64)
    (retries : Nat) :
    c.backoff.nominal retries =
        min (c.reconnect.baseDelay * 2 ^ retries) c.reconnect.maxDelay * nanosPerMilli ∧
      nanosPerMilli ≤ c.backoff.nominal retries ∧
      (∀ later, retries ≤ later → c.backoff.nominal retries ≤ c.backoff.nominal later) ∧
      (64 ≤ retries → c.backoff.nominal retries = c.reconnect.maxDelay * nanosPerMilli) := by
  obtain ⟨positive, ordered⟩ := delays_of_valid valid
  have bound := max_backoff ordered
  have exact_at (retries : Nat) : c.backoff.nominal retries =
      min (c.reconnect.baseDelay * 2 ^ retries) c.reconnect.maxDelay * nanosPerMilli := by
    rw [Backoff.nominal, Backoff.nominalMillis_eq (c.base_backoff ▸ base_fits)
      (bound ▸ max_fits), c.base_backoff, bound, Backoff.min_cut_eq positive max_fits]
  have power (k : Nat) : 1 ≤ 2 ^ k := Nat.one_le_two_pow
  refine ⟨exact_at retries, ?_, ?_, ?_⟩
  · rw [exact_at]
    apply Nat.le_mul_of_pos_left
    have doubled : 1 ≤ c.reconnect.baseDelay * 2 ^ retries := Nat.mul_pos positive (power retries)
    omega
  · intro later le
    rw [exact_at, exact_at]
    apply Nat.mul_le_mul_right
    have grown : c.reconnect.baseDelay * 2 ^ retries ≤ c.reconnect.baseDelay * 2 ^ later :=
      Nat.mul_le_mul_left _ (Nat.pow_le_pow_right (by decide) le)
    omega
  · intro many
    rw [exact_at, Nat.min_eq_right (Backoff.max_le_of_maxDoublings_le positive max_fits many)]

/-- The largest bound there is, and a base that no longer fits 64 bits once it is doubled. -/
def slowest : Config where
  reconnect := { baseDelay := 9223372036854775809, maxDelay := 18446744073709551615 }

theorem nominal_doubles_to_bound_of_slowest :
    slowest.problem? = none ∧
      slowest.backoff.nominal 0 = 9223372036854775809 * nanosPerMilli ∧
      slowest.backoff.nominal 0 ≤ slowest.backoff.nominal 63 ∧
      slowest.backoff.nominal 63 = 18446744073709551615 * nanosPerMilli ∧
      slowest.backoff.nominal 64 = 18446744073709551615 * nanosPerMilli := by
  have valid : slowest.problem? = none := rfl
  have base_fits : slowest.reconnect.baseDelay < 2 ^ 64 := by decide
  have max_fits : slowest.reconnect.maxDelay < 2 ^ 64 := by decide
  obtain ⟨first, -, grows, -⟩ := nominal_doubles_to_bound valid base_fits max_fits 0
  obtain ⟨last, -⟩ := nominal_doubles_to_bound valid base_fits max_fits 63
  obtain ⟨-, -, -, bound⟩ := nominal_doubles_to_bound valid base_fits max_fits 64
  refine ⟨valid, ?_, grows 63 (by decide), ?_, bound (by decide)⟩
  · rw [first]
    rfl
  · rw [last]
    rfl

end Config

end StreamingChat
