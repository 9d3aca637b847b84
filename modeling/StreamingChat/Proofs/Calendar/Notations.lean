import StreamingChat.Proofs.Calendar.Days
import StreamingChat.Proofs.Calendar.Digits

/-!
# The notations of an instant

A civil date and time is written with two digits for each of its parts, four for the year, and as
many as one likes for a fraction of the second.  It is read back as the same instant with no offset
behind it and with one of zero, and with another offset as that much earlier or later.  The text
that an instant is written as is one of these, and so it is read back as the instant.
-/

namespace StreamingChat.Calendar

open Text (isBlank NoBlank Tidy)
open Timestamp

/-- A civil date and time of a year with four digits, as it is written. -/
structure Face where
  date : Date
  hour : Nat
  minute : Nat
  second : Nat
  /-- The digits behind the point; without any there is no point. -/
  fraction : List Char

namespace Face

/-- Second 60 is a leap second. -/
structure IsValid (f : Face) : Prop where
  year : 0 ≤ f.date.year ∧ f.date.year ≤ 9999
  date : f.date.IsProper
  hour : f.hour ≤ 23
  minute : f.minute ≤ 59
  second : f.second ≤ 60
  fraction : AllDigits f.fraction

/-- The instant at which a clock of UTC shows this face.  A leap second goes on with the second
before it. -/
def instant (f : Face) : Instant where
  seconds := f.date.toDays * 86400 + f.hour * 3600 + f.minute * 60 + min f.second 59
  nanos := nanosOf f.fraction + if f.second = 60 then 10 ^ 9 else 0

/-- The time of day. -/
def time (f : Face) : List Char :=
  padded 2 f.hour ++ ':' :: (padded 2 f.minute ++ ':' :: (padded 2 f.second ++
    fractionText f.fraction))

/-- The face with a character between the date and the time. -/
def chars (f : Face) (between : Char) : List Char :=
  padded 4 f.date.year.toNat ++ '-' :: (padded 2 f.date.month ++ '-' :: (padded 2 f.date.day ++
    between :: f.time))

variable {f : Face} {between : Char} {zone : List Char}

theorem IsValid.year_lt (valid : f.IsValid) : f.date.year.toNat < 10 ^ 4 := by
  have year := valid.year
  omega

theorem IsValid.month_lt (valid : f.IsValid) : f.date.month < 10 ^ 2 := by
  have month := valid.date.month
  omega

theorem IsValid.day_lt (valid : f.IsValid) : f.date.day < 10 ^ 2 := by
  have day := valid.date.day
  have month := daysInMonth_le f.date.year f.date.month
  omega

theorem IsValid.hour_lt (valid : f.IsValid) : f.hour < 10 ^ 2 :=
  Nat.lt_of_le_of_lt valid.hour (by decide)

theorem IsValid.minute_lt (valid : f.IsValid) : f.minute < 10 ^ 2 :=
  Nat.lt_of_le_of_lt valid.minute (by decide)

theorem IsValid.second_lt (valid : f.IsValid) : f.second < 10 ^ 2 :=
  Nat.lt_of_le_of_lt valid.second (by decide)

/-- What is scanned of a face makes up its instant. -/
theorem instant?_civil (valid : f.IsValid) :
    (⟨⟨f.date.year.toNat, f.date.month, f.date.day⟩, f.hour, f.minute, f.second,
      nanosOf f.fraction⟩ : Civil).instant? = some f.instant := by
  obtain ⟨year, date, hour, minute, second, -⟩ := valid
  rw [Int.toNat_of_nonneg year.1]
  have accepted : (⟨f.date, f.hour, f.minute, f.second, nanosOf f.fraction⟩ : Civil).isValid =
      true := by
    obtain ⟨month, day⟩ := date
    simp only [Civil.isValid, Date.isValid, Bool.and_eq_true, decide_eq_true_eq]
    simp only [Date.minYear, Date.maxYear]
    omega
  rw [Civil.instant?, if_pos accepted]
  apply congrArg some
  by_cases leap : f.second = 60
  · simp only [Civil.toInstant, instant, leap, if_true]
    exact congrArg (Instant.mk _) (Nat.add_comm _ _)
  · have before : min f.second 59 = f.second := Nat.min_eq_left (by omega)
    simp only [Civil.toInstant, instant, leap, if_false, before]
    rfl

/-- The strict scan of a face goes on to what stands behind it. -/
theorem withOffset_chars (valid : f.IsValid) (apart : between = 'T' ∨ between = ' ')
    (ends : EndsFraction zone) :
    withOffset (f.chars between ++ zone) =
      (offset zone).bind fun scanned =>
        if scanned.2.isEmpty then
          some { f.instant with seconds := f.instant.seconds - scanned.1 }
        else none := by
  have between_ (rest : List Char) : dateEnd (between :: rest) = some ((), rest) := by
    rcases apart with rfl | rfl
    · rfl
    · rfl
  simp only [chars, time, List.append_assoc, List.cons_append]
  -- one part after the other is taken off the front, up to the offset
  refine (bind_scanned (number_year valid.year_lt _) _).trans ?_
  refine (bind_scanned (mark_cons '-' _) _).trans ?_
  refine (bind_scanned (number_two valid.month_lt _) _).trans ?_
  refine (bind_scanned (mark_cons '-' _) _).trans ?_
  refine (bind_scanned (number_two valid.day_lt _) _).trans ?_
  refine (bind_scanned (between_ _) _).trans ?_
  refine (bind_scanned (number_two valid.hour_lt _) _).trans ?_
  refine (bind_scanned (mark_cons ':' _) _).trans ?_
  refine (bind_scanned (number_two valid.minute_lt _) _).trans ?_
  refine (bind_scanned (mark_cons ':' _) _).trans ?_
  refine (bind_scanned (number_two valid.second_lt _) _).trans ?_
  refine (bind_scanned (fraction_append valid.fraction ends) _).trans ?_
  simp only [instant?_civil valid]
  rfl

/-- The loose scan of a face without an offset.  The separator may be another one than stands
there. -/
theorem withoutOffset_chars (valid : f.IsValid) (between : Char) (separator_ : Separator)
    (apart : ∀ scanned ∈ separator separator_ (between :: f.time), scanned = ((), f.time)) :
    withoutOffset separator_ (f.chars between) =
      (separator separator_ (between :: f.time)).map fun _ => f.instant := by
  refine (bind_scanned (looseYear_padded valid.year_lt _) _).trans ?_
  refine (bind_scanned (mark_cons '-' _) _).trans ?_
  refine (bind_scanned (looseNumber_padded valid.month_lt _) _).trans ?_
  refine (bind_scanned (mark_cons '-' _) _).trans ?_
  refine (bind_scanned (looseNumber_padded valid.day_lt _) _).trans ?_
  cases found : separator separator_ (between :: f.time) with
  | none => exact bind_failed found _
  | some scanned =>
      obtain rfl := apart scanned found
      refine (bind_scanned found _).trans ?_
      refine (bind_scanned (looseNumber_padded valid.hour_lt _) _).trans ?_
      refine (bind_scanned (mark_cons ':' _) _).trans ?_
      refine (bind_scanned (looseNumber_padded valid.minute_lt _) _).trans ?_
      refine (bind_scanned (mark_cons ':' _) _).trans ?_
      refine (bind_scanned (looseNumber_padded valid.second_lt _) _).trans ?_
      exact (bind_scanned (fraction_fractionText valid.fraction) _).trans (instant?_civil valid)

end Face

/-! ## Offsets -/

/-- An offset from UTC that is written in hours and minutes. -/
structure Zone where
  isEast : Bool
  hours : Nat
  minutes : Nat

namespace Zone

structure IsValid (z : Zone) : Prop where
  hours : z.hours ≤ 23
  minutes : z.minutes ≤ 59

/-- How far a clock there is ahead. -/
def seconds (z : Zone) : Int :=
  (if z.isEast then 1 else -1) * (z.hours * 3600 + z.minutes * 60 : Nat)

/-- How the direction is written. -/
def sign (z : Zone) : Char :=
  if z.isEast then '+' else '-'

def chars (z : Zone) : List Char :=
  z.sign :: padded 2 z.hours ++ ':' :: padded 2 z.minutes

/-- The zone of UTC. -/
def utc : Zone := ⟨true, 0, 0⟩

theorem isValid_utc : utc.IsValid :=
  ⟨by decide, by decide⟩

variable {z : Zone}

theorem sign_eq (z : Zone) : z.sign = '+' ∨ z.sign = '-' := by
  unfold sign
  cases z.isEast with
  | true => exact .inl rfl
  | false => exact .inr rfl

theorem sign_ne {c : Char} (plus : '+' ≠ c) (minus : '-' ≠ c) : z.sign ≠ c := by
  rcases z.sign_eq with east | west
  · rw [east]
    exact plus
  · rw [west]
    exact minus

theorem noBlank_chars (z : Zone) : NoBlank z.chars := by
  have sign : isBlank z.sign = false := by
    rcases z.sign_eq with east | west
    · rw [east]
      rfl
    · rw [west]
      rfl
  have hours : NoBlank (z.sign :: padded 2 z.hours) :=
    List.forall_mem_cons.mpr ⟨sign, noBlank_padded 2 z.hours⟩
  have minutes : NoBlank (':' :: padded 2 z.minutes) :=
    List.forall_mem_cons.mpr ⟨rfl, noBlank_padded 2 z.minutes⟩
  exact List.forall_mem_append.mpr ⟨hours, minutes⟩

theorem endsFraction_chars (z : Zone) : EndsFraction z.chars := by
  intro c head
  obtain rfl := Option.some.inj head
  refine ⟨?_, sign_ne (by decide) (by decide)⟩
  rcases z.sign_eq with east | west
  · rw [east]
    rfl
  · rw [west]
    rfl

theorem offset_chars (valid : z.IsValid) : offset z.chars = some (z.seconds, []) := by
  have hours := number_two (Nat.lt_of_le_of_lt valid.hours (by decide))
  have minutes := number_two (Nat.lt_of_le_of_lt valid.minutes (by decide)) []
  rw [List.append_nil] at minutes
  have signed (rest : List Char) :
      offsetSign (z.sign :: rest) = some (if z.isEast then 1 else -1, rest) := by
    unfold sign
    cases z.isEast with
    | true => rfl
    | false => rfl
  unfold offset chars
  split
  · rename_i same
    exact absurd (List.cons.inj same).1 (sign_ne (by decide) (by decide))
  · rename_i same
    exact absurd (List.cons.inj same).1 (sign_ne (by decide) (by decide))
  · refine (bind_scanned (signed _) _).trans ?_
    refine (bind_scanned (hours _) _).trans ?_
    refine (bind_scanned (mark_cons ':' _) _).trans ?_
    exact (bind_scanned minutes _).trans (if_pos ⟨valid.hours, valid.minutes⟩)

end Zone

namespace Face

variable {f : Face} {between : Char} {zone : List Char}

/-! ## The text of a face -/

theorem noBlank_time (valid : f.IsValid) : NoBlank f.time := by
  have colon {text : List Char} (noBlank : NoBlank text) : NoBlank (':' :: text) :=
    List.forall_mem_cons.mpr ⟨rfl, noBlank⟩
  have fraction_ : NoBlank (fractionText f.fraction) := by
    unfold fractionText
    split
    · exact List.forall_mem_nil _
    · exact List.forall_mem_cons.mpr ⟨rfl, valid.fraction.noBlank⟩
  have second := List.forall_mem_append.mpr ⟨noBlank_padded 2 f.second, fraction_⟩
  have minute := List.forall_mem_append.mpr ⟨noBlank_padded 2 f.minute, colon second⟩
  exact List.forall_mem_append.mpr ⟨noBlank_padded 2 f.hour, colon minute⟩

theorem tidy_chars (valid : f.IsValid) (between : Char) (noBlank : NoBlank zone) :
    Tidy (f.chars between ++ zone) := by
  have shape : f.chars between ++ zone = padded 4 f.date.year.toNat ++
      ('-' :: (padded 2 f.date.month ++ '-' :: (padded 2 f.date.day ++ [between]))) ++
        (f.time ++ zone) := by
    simp only [chars, List.append_assoc, List.cons_append, List.nil_append]
  rw [shape]
  apply Text.tidy_append
  · exact noBlank_padded 4 _
  · exact padded_ne_nil 4 _
  · exact List.forall_mem_append.mpr ⟨noBlank_time valid, noBlank⟩
  · apply List.append_ne_nil_of_left_ne_nil
    exact List.append_ne_nil_of_left_ne_nil (padded_ne_nil 2 f.hour) _

theorem ofText?_of_tidy {text : List Char} (tidy : Tidy text) :
    ofText? (String.ofList text) =
      (withOffset text <|> withoutOffset .letter text <|> withoutOffset .blanks text) := by
  rw [ofText?, String.toList_ofList, tidy.trimChars_eq]

/-- With an offset a face is read by the strict scan. -/
theorem ofText?_offset (valid : f.IsValid) (apart : between = 'T' ∨ between = ' ')
    (noBlank : NoBlank zone) (ends : EndsFraction zone) {east : Int}
    (scanned : offset zone = some (east, [])) :
    ofText? (String.ofList (f.chars between ++ zone)) =
      some { f.instant with seconds := f.instant.seconds - east } := by
  rw [ofText?_of_tidy (tidy_chars valid between noBlank), withOffset_chars valid apart ends,
    scanned]
  rfl

/-- Without an offset a face is not read by the strict scan, but by one of the others. -/
theorem ofText?_naive (valid : f.IsValid) (apart : between = 'T' ∨ between = ' ') :
    ofText? (String.ofList (f.chars between)) = some f.instant := by
  have strict := @withOffset_chars f between [] valid apart nofun
  have tidy := @tidy_chars f [] valid between (List.forall_mem_nil _)
  rw [List.append_nil] at strict tidy
  rw [ofText?_of_tidy tidy, strict]
  have unread : offset [] = none := rfl
  rw [unread]
  rcases apart with rfl | rfl
  · have letter := withoutOffset_chars valid 'T' .letter (by
      intro scanned found
      exact (Option.some.inj found).symm)
    rw [letter]
    rfl
  -- the scan that wants a letter comes first and fails at the blank
  · have letter := withoutOffset_chars valid ' ' .letter nofun
    have skipped : separator .blanks (' ' :: f.time) = some ((), f.time) :=
      congrArg (fun rest => some ((), rest)) (trimStart_padded 2 f.hour _)
    have blanks := withoutOffset_chars valid ' ' .blanks (by
      intro scanned found
      exact (Option.some.inj (skipped.symm.trans found)).symm)
    rw [letter, blanks, skipped]
    rfl

/-- Any zone reads the face earlier by what its clock is ahead. -/
theorem ofText?_zone (valid : f.IsValid) (apart : between = 'T' ∨ between = ' ') {z : Zone}
    (zone_valid : z.IsValid) :
    ofText? (String.ofList (f.chars between ++ z.chars)) =
      some { f.instant with seconds := f.instant.seconds - z.seconds } :=
  ofText?_offset valid apart z.noBlank_chars z.endsFraction_chars (Zone.offset_chars zone_valid)

theorem ofText?_utc (valid : f.IsValid) (apart : between = 'T' ∨ between = ' ') :
    ofText? (String.ofList (f.chars between ++ ['Z'])) = some f.instant := by
  have ends : EndsFraction ['Z'] := by
    intro c head
    obtain rfl := Option.some.inj head
    exact ⟨rfl, by decide⟩
  have read : ofText? (String.ofList (f.chars between ++ ['Z'])) =
      some { f.instant with seconds := f.instant.seconds - 0 } :=
    ofText?_offset valid apart (List.forall_mem_singleton.mpr rfl) ends rfl
  rw [Int.sub_zero] at read
  exact read

end Face

/-! ## The text of an instant -/

/-- The digits of a fraction of a second, three at a time. -/
def nanosDigits (nanos : Nat) : List Char :=
  if nanos = 0 then []
  else if nanos % 1000000 = 0 then padded 3 (nanos / 1000000)
  else if nanos % 1000 = 0 then padded 6 (nanos / 1000)
  else padded 9 nanos

variable {nanos : Nat}

theorem allDigits_nanosDigits (nanos : Nat) : AllDigits (nanosDigits nanos) := by
  unfold nanosDigits
  split
  · exact List.forall_mem_nil _
  · repeat' split
    all_goals exact allDigits_padded _ _

theorem fractionText_nanosDigits (nanos : Nat) :
    fractionText (nanosDigits nanos) = Instant.fractionChars nanos := by
  have shown (width n : Nat) : fractionText (padded width n) = '.' :: padded width n :=
    if_neg (by rw [List.isEmpty_iff]; exact padded_ne_nil width n)
  unfold nanosDigits Instant.fractionChars
  split
  · rfl
  · repeat' split
    all_goals exact shown _ _

theorem nanosOf_padded {width n : Nat} (positive : 0 < width) (short : width ≤ 9)
    (fits : n < 10 ^ width) : nanosOf (padded width n) = n * 10 ^ (9 - width) := by
  have length := length_padded positive fits
  rw [nanosOf_of_length_le (by omega), length, ofDigitChars_padded]

theorem nanosOf_nanosDigits (fits : nanos < 10 ^ 9) : nanosOf (nanosDigits nanos) = nanos := by
  unfold nanosDigits
  split
  · rename_i zero
    exact zero.symm
  split
  · rw [nanosOf_padded (by decide) (by decide) (by omega)]
    omega
  split
  · rw [nanosOf_padded (by decide) (by decide) (by omega)]
    omega
  · rw [nanosOf_padded (by decide) (by decide) fits]
    omega

namespace Instant

/-- The nanoseconds are those of a second, or of a leap second at the end of a minute. -/
def IsProper (t : Instant) : Prop :=
  t.nanos < 10 ^ 9 ∨ t.seconds % 60 = 59 ∧ t.nanos < 2 * 10 ^ 9

/-- What a clock of UTC shows at an instant. -/
def face (t : Instant) : Face where
  date := Date.ofDays (t.seconds / secondsPerDay)
  hour := (t.seconds % secondsPerDay).toNat / 3600
  minute := (t.seconds % secondsPerDay).toNat / 60 % 60
  second := (t.seconds % secondsPerDay).toNat % 60 + t.nanos / nanosPerSecond
  fraction := nanosDigits (t.nanos % nanosPerSecond)

/-- The year has four digits. -/
def HasShortYear (t : Instant) : Prop :=
  0 ≤ t.face.date.year ∧ t.face.date.year ≤ 9999

variable {t : Instant}

theorem isValid_face (proper : t.IsProper) (year : t.HasShortYear) : t.face.IsValid where
  year := year
  date := Date.isProper_ofDays _
  hour := by
    simp only [face, secondsPerDay]
    omega
  minute := by
    simp only [face, secondsPerDay]
    omega
  second := by
    unfold IsProper at proper
    simp only [face, secondsPerDay, nanosPerSecond]
    omega
  fraction := allDigits_nanosDigits _

theorem seconds_face (proper : t.IsProper) : t.face.instant.seconds = t.seconds := by
  have date : t.face.date.toDays = t.seconds / secondsPerDay := Date.toDays_ofDays _
  unfold IsProper at proper
  simp only [Face.instant, date]
  simp only [face, secondsPerDay, nanosPerSecond]
  omega

theorem nanos_face (proper : t.IsProper) : t.face.instant.nanos = t.nanos := by
  have fraction_ : nanosOf t.face.fraction = t.nanos % nanosPerSecond :=
    nanosOf_nanosDigits (Nat.mod_lt _ (by decide))
  unfold IsProper at proper
  simp only [Face.instant, fraction_]
  by_cases leap : t.face.second = 60
  · rw [if_pos leap]
    simp only [face, secondsPerDay, nanosPerSecond] at leap ⊢
    omega
  · rw [if_neg leap]
    simp only [face, secondsPerDay, nanosPerSecond] at leap ⊢
    omega

/-- The clock shows the instant. -/
theorem instant_face (proper : t.IsProper) : t.face.instant = t :=
  congrArg₂ Instant.mk (seconds_face proper) (nanos_face proper)

/-- The text of an instant is that of the face. -/
theorem chars_eq (year : t.HasShortYear) : t.chars = t.face.chars 'T' ++ ['Z'] := by
  have four : yearChars t.face.date.year = padded 4 t.face.date.year.toNat := if_pos year
  have fraction_ := fractionText_nanosDigits (t.nanos % nanosPerSecond)
  simp only [face] at four
  simp only [chars, Face.chars, Face.time, face, fraction_, four, List.append_assoc,
    List.cons_append]

/-- The text of an instant is read back as the instant. -/
theorem ofText?_text (proper : t.IsProper) (year : t.HasShortYear) :
    ofText? t.text = some t := by
  rw [text, chars_eq year, Face.ofText?_utc (isValid_face proper year) (.inl rfl),
    instant_face proper]

end Instant

/-- Blanks at its ends make no difference to a text. -/
theorem Timestamp.ofText?_append {before after : List Char} (blank_before : Text.AllBlank before)
    (blank_after : Text.AllBlank after) (text : List Char) :
    ofText? (String.ofList (before ++ text ++ after)) = ofText? (String.ofList text) := by
  rw [ofText?, ofText?, String.toList_ofList, String.toList_ofList,
    Text.trimChars_append blank_before blank_after]

end StreamingChat.Calendar
