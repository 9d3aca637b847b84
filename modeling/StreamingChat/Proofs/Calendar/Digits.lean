import Mathlib.Algebra.Order.Ring.Nat
import StreamingChat.Calendar.Timestamp
import StreamingChat.Proofs.Text.Words

/-!
# The digits of a timestamp

A number that is written with a fixed count of digits is read back from them, by the strict scan,
which wants all of them, and by the loose one, which would do with fewer.  A fraction of any length
is read as the whole nanoseconds in it.
-/

namespace StreamingChat.Calendar

open Text (isBlank trimStart)

variable {width n : Nat} {digits rest : List Char} {c : Char}

def AllDigits (text : List Char) : Prop :=
  ∀ c ∈ text, c.isDigit = true

/-! ## Writing -/

theorem allDigits_padded (width n : Nat) : AllDigits (padded width n) := by
  intro c member
  rcases List.mem_append.mp member with zero | digit
  · rw [(List.mem_replicate.mp zero).2]
    rfl
  · exact Nat.isDigit_of_mem_toDigits (by decide) (by decide) digit

theorem length_padded (positive : 0 < width) (fits : n < 10 ^ width) :
    (padded width n).length = width := by
  have short : (Nat.toDigits 10 n).length ≤ width :=
    (Nat.length_toDigits_le_iff (by decide) positive).mpr fits
  rw [padded, List.length_append, List.length_replicate, Nat.sub_add_cancel short]

theorem padded_ne_nil (width n : Nat) : padded width n ≠ [] :=
  List.append_ne_nil_of_right_ne_nil _ Nat.toDigits_ne_nil

theorem ofDigitChars_padded (width n : Nat) : Nat.ofDigitChars 10 (padded width n) 0 = n := by
  rw [padded, Nat.ofDigitChars_append, Nat.ofDigitChars_replicate_zero, Nat.mul_zero,
    Nat.ofDigitChars_toDigits (by decide) (by decide)]

theorem isBlank_of_isDigit (digit : c.isDigit = true) : isBlank c = false := by
  obtain ⟨low, high⟩ := Char.isDigit_iff_toNat.mp digit
  change 48 ≤ c.toNat at low
  change c.toNat ≤ 57 at high
  simp only [isBlank, Bool.or_eq_false_iff, Bool.and_eq_false_iff, decide_eq_false_iff_not,
    beq_eq_false_iff_ne]
  omega

theorem AllDigits.noBlank (all : AllDigits digits) : Text.NoBlank digits := by
  intro c member
  exact isBlank_of_isDigit (all c member)

theorem noBlank_padded (width n : Nat) : Text.NoBlank (padded width n) :=
  (allDigits_padded width n).noBlank

theorem ofDigitChars_lt (all : AllDigits digits) :
    Nat.ofDigitChars 10 digits 0 < 10 ^ digits.length := by
  induction digits with
  | nil => exact Nat.one_pos
  | cons c later ih =>
      obtain ⟨first, others⟩ := List.forall_mem_cons.mp all
      have digit : c.toNat - '0'.toNat ≤ 9 := by
        have high := (Char.isDigit_iff_toNat.mp first).2
        change c.toNat ≤ 57 at high
        change c.toNat - 48 ≤ 9
        omega
      rw [Nat.ofDigitChars_cons, Nat.mul_zero, Nat.zero_add, Nat.ofDigitChars_eq_ofDigitChars_zero]
      calc 10 ^ later.length * (c.toNat - '0'.toNat) + Nat.ofDigitChars 10 later 0
          < 10 ^ later.length * (c.toNat - '0'.toNat) + 10 ^ later.length :=
            Nat.add_lt_add_left (ih others) _
        _ = 10 ^ later.length * (c.toNat - '0'.toNat + 1) := (Nat.mul_succ _ _).symm
        _ ≤ 10 ^ later.length * 10 := Nat.mul_le_mul_left _ (Nat.succ_le_succ digit)
        _ = 10 ^ (c :: later).length := (Nat.pow_succ 10 later.length).symm

/-! ## Reading a number -/

namespace Timestamp

/-- What follows a scan goes on with what it found. -/
theorem bind_scanned {α β : Type} {scanned : Option (α × List Char)} {value : α}
    (found : scanned = some (value, rest)) (next : α × List Char → Option β) :
    (scanned >>= next) = next (value, rest) :=
  found ▸ rfl

theorem bind_failed {α β : Type} {scanned : Option (α × List Char)} (failed : scanned = none)
    (next : α × List Char → Option β) : (scanned >>= next) = none :=
  failed ▸ rfl

theorem mark_cons (c : Char) (rest : List Char) : mark c (c :: rest) = some ((), rest) :=
  if_pos rfl

theorem number_append {least most : Nat} (all : AllDigits digits) (length : digits.length = most)
    (enough : least ≤ most) (rest : List Char) :
    number least most (digits ++ rest) = some (Nat.ofDigitChars 10 digits 0, rest) := by
  have taken : ((digits ++ rest).take most).takeWhile Char.isDigit = digits := by
    rw [List.take_left' length]
    exact List.takeWhile_eq_self_iff.mpr all
  simp only [number, taken]
  rw [if_neg (by omega), List.drop_left]

theorem number_padded (positive : 0 < width) (fits : n < 10 ^ width) {least : Nat}
    (enough : least ≤ width) (rest : List Char) :
    number least width (padded width n ++ rest) = some (n, rest) := by
  rw [number_append (allDigits_padded width n) (length_padded positive fits) enough,
    ofDigitChars_padded]

theorem number_year (fits : n < 10 ^ 4) (rest : List Char) :
    number 4 4 (padded 4 n ++ rest) = some (n, rest) :=
  number_padded (by decide) fits (Nat.le_refl 4) rest

theorem number_two (fits : n < 10 ^ 2) (rest : List Char) :
    number 2 2 (padded 2 n ++ rest) = some (n, rest) :=
  number_padded (by decide) fits (Nat.le_refl 2) rest

/-- A text that begins with digits has no blanks to skip. -/
theorem trimStart_padded (width n : Nat) (rest : List Char) :
    trimStart (padded width n ++ rest) = padded width n ++ rest := by
  have digits := allDigits_padded width n
  obtain ⟨first, later, shape⟩ := List.exists_cons_of_ne_nil (padded_ne_nil width n)
  rw [shape] at digits ⊢
  apply Text.trimStart_of_head
  rintro c same
  exact Option.some.inj same ▸ isBlank_of_isDigit (digits first List.mem_cons_self)

theorem looseNumber_padded (fits : n < 10 ^ 2) (rest : List Char) :
    looseNumber (padded 2 n ++ rest) = some (n, rest) := by
  rw [looseNumber, trimStart_padded]
  exact number_padded (by decide) fits (by decide) rest

/-- A year of four digits is none with a sign. -/
theorem looseYear_padded (fits : n < 10 ^ 4) (rest : List Char) :
    looseYear (padded 4 n ++ rest) = some ((n : Int), rest) := by
  have scanned : number 1 4 (padded 4 n ++ rest) = some (n, rest) :=
    number_padded (by decide) fits (by decide) rest
  have digits := allDigits_padded 4 n
  have length := length_padded (by decide) fits
  unfold looseYear
  rw [trimStart_padded]
  generalize padded 4 n = year at scanned digits length ⊢
  cases year with
  | nil => cases length
  | cons first later =>
      have digit : first.isDigit = true := digits first List.mem_cons_self
      split
      · rename_i same
        obtain ⟨rfl, -⟩ := List.cons.inj same
        cases digit
      · rename_i same
        obtain ⟨rfl, -⟩ := List.cons.inj same
        cases digit
      · rw [scanned]
        rfl

/-! ## Reading a fraction -/

/-- A fraction of any length, in whole nanoseconds. -/
def nanosOf (digits : List Char) : Nat :=
  Nat.ofDigitChars 10 digits 0 * 10 ^ 9 / 10 ^ digits.length

/-- Nothing here belongs to a fraction that stands before it. -/
def EndsFraction (rest : List Char) : Prop :=
  ∀ c ∈ rest.head?, c.isDigit = false ∧ c ≠ '.'

/-- The digits behind a point; without any there is no point either. -/
def fractionText (digits : List Char) : List Char :=
  if digits.isEmpty then [] else '.' :: digits

theorem nanosOf_of_length_le (short : digits.length ≤ 9) :
    nanosOf digits = Nat.ofDigitChars 10 digits 0 * 10 ^ (9 - digits.length) := by
  have whole : 10 ^ 9 = 10 ^ (9 - digits.length) * 10 ^ digits.length := by
    rw [← Nat.pow_add, Nat.sub_add_cancel short]
  rw [nanosOf, whole, ← Nat.mul_assoc]
  exact Nat.mul_div_cancel _ (Nat.pow_pos (by decide))

/-- What the digits behind the first nine add is less than a nanosecond. -/
theorem nanosOf_append {first : List Char} (nine : first.length = 9) (all : AllDigits rest) :
    nanosOf (first ++ rest) = Nat.ofDigitChars 10 first 0 := by
  have small := ofDigitChars_lt all
  have positive : 0 < 10 ^ rest.length := Nat.pow_pos (by decide)
  rw [nanosOf, Nat.ofDigitChars_append, Nat.ofDigitChars_eq_ofDigitChars_zero, List.length_append,
    nine, Nat.add_comm 9, Nat.pow_add, Nat.mul_div_mul_right _ _ (by decide),
    Nat.mul_add_div positive, Nat.div_eq_of_lt small, Nat.add_zero]

theorem kept_eq_nanosOf (all : AllDigits digits) :
    Nat.ofDigitChars 10 (digits.take 9) 0 * Nat.pow 10 (9 - (digits.take 9).length) =
      nanosOf digits := by
  rcases Nat.le_total digits.length 9 with short | long
  · rw [List.take_of_length_le short, nanosOf_of_length_le short]
    rfl
  · have nine : (digits.take 9).length = 9 := List.length_take_of_le long
    have others : AllDigits (digits.drop 9) := fun c member => all c (List.mem_of_mem_drop member)
    have split_ := nanosOf_append nine others
    rw [List.take_append_drop] at split_
    rw [split_, nine]
    exact Nat.mul_one _

/-- A fraction ends where the digits do. -/
theorem fraction_append (all : AllDigits digits) (ends : EndsFraction rest) :
    fraction (fractionText digits ++ rest) = some (nanosOf digits, rest) := by
  cases digits with
  | nil =>
      have none_ : fraction rest = some (0, rest) := by
        unfold fraction
        split
        · exact absurd rfl (ends '.' rfl).2
        · rfl
      exact none_
  | cons first later =>
      have stop : rest.takeWhile Char.isDigit = [] ∧ rest.dropWhile Char.isDigit = rest := by
        cases rest with
        | nil => exact ⟨rfl, rfl⟩
        | cons c more =>
            have other := Bool.eq_false_iff.mp (ends c rfl).1
            exact ⟨List.takeWhile_cons_of_neg other, List.dropWhile_cons_of_neg other⟩
      have taken : (first :: later ++ rest).takeWhile Char.isDigit = first :: later := by
        rw [List.takeWhile_append_of_pos all, stop.1, List.append_nil]
      have left : (first :: later ++ rest).dropWhile Char.isDigit = rest := by
        rw [List.dropWhile_append_of_pos all, stop.2]
      change fraction ('.' :: (first :: later ++ rest)) = _
      simp only [fraction, taken, left, kept_eq_nanosOf all]
      rfl

/-- A fraction may end where the text does. -/
theorem fraction_fractionText (all : AllDigits digits) :
    fraction (fractionText digits) = some (nanosOf digits, []) := by
  have scanned : fraction (fractionText digits ++ []) = some (nanosOf digits, []) :=
    fraction_append all nofun
  rw [List.append_nil] at scanned
  exact scanned

end Timestamp

end StreamingChat.Calendar
