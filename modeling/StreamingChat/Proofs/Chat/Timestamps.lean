import StreamingChat.Chat.Message
import StreamingChat.Proofs.Calendar.Notations

/-!
# The timestamps of entries

A timestamp is text or a number.  However an instant is written it is read as the same: with a
letter or a blank before the time, without an offset or with one, with blanks around it, or as a
count of milliseconds, which may be negative.
-/

namespace StreamingChat.Chat

open Calendar
open Text (AllBlank)

/-- A count of milliseconds since 1970 up to the ends of the calendar. -/
def InCalendar (millis : Int) : Prop :=
  (⟨-262143, 1, 1⟩ : Date).toDays * 86400000 ≤ millis ∧
    millis < ((⟨262142, 12, 31⟩ : Date).toDays + 1) * 86400000

instance (millis : Int) : Decidable (InCalendar millis) :=
  inferInstanceAs (Decidable (_ ∧ _))

variable {millis : Int} {text : List Char}

/-- The day numbers of both ends. -/
theorem inCalendar_iff : InCalendar millis ↔
    -96465292 * 86400000 ≤ millis ∧ millis < 95026237 * 86400000 :=
  Iff.rfl

theorem InCalendar.fits (inCalendar : InCalendar millis) : Json.Number.Fits millis := by
  rw [inCalendar_iff] at inCalendar
  unfold Json.Number.Fits
  omega

/-- A timestamp that is a number. -/
def millisValue (millis : Int) (inCalendar : InCalendar millis) : Value :=
  ⟨.number (.integer millis inCalendar.fits), trivial⟩

/-- A timestamp that is text. -/
def textValue (text : List Char) : Value :=
  .string (String.ofList text)

/-- The instant so many milliseconds after the beginning of 1970, or before it. -/
def instantOfMillis (millis : Int) : Instant :=
  ⟨millis / 1000, (millis % 1000).toNat * 1000000⟩

theorem isProper_instantOfMillis (millis : Int) : (instantOfMillis millis).IsProper := by
  apply Or.inl
  simp only [instantOfMillis]
  omega

theorem timestamp?_millisValue (inCalendar : InCalendar millis) :
    timestamp? (millisValue millis inCalendar) = some (instantOfMillis millis) := by
  have inRange : Instant.inRange (millis / 1000) = true := by
    have first : (⟨Date.minYear, 1, 1⟩ : Date).toDays = -96465292 := rfl
    have last : (⟨Date.maxYear, 12, 31⟩ : Date).toDays = 95026236 := rfl
    rw [inCalendar_iff] at inCalendar
    simp only [Instant.inRange, first, last, secondsPerDay, Bool.and_eq_true, decide_eq_true_eq]
    omega
  exact if_pos inRange

/-- All notations of an instant agree.  A face of the clock of UTC, with a leap second or without
and with any number of digits behind the point, is read as its instant without an offset and with
none to speak of, and as much earlier as an offset says, to the nanosecond.  Blanks around a text
make no difference.  Milliseconds are read as their instant, and the text of this instant is read as
the same while its year has four digits.  The days of a face are those of the calendar, counted
from 1970 on. -/
theorem timestamp_notations_agree :
    (∀ f : Face, f.IsValid → ∀ between, between = 'T' ∨ between = ' ' →
      timestamp? (textValue (f.chars between)) = some f.instant ∧
      timestamp? (textValue (f.chars between ++ "Z".toList)) = some f.instant ∧
      timestamp? (textValue (f.chars between ++ "+00:00".toList)) = some f.instant ∧
      ∀ z : Zone, z.IsValid → timestamp? (textValue (f.chars between ++ z.chars)) =
        some { f.instant with seconds := f.instant.seconds - z.seconds }) ∧
    (∀ before text after, AllBlank before → AllBlank after →
      timestamp? (textValue (before ++ text ++ after)) = timestamp? (textValue text)) ∧
    (∀ millis, ∀ inCalendar : InCalendar millis,
      timestamp? (millisValue millis inCalendar) = some (instantOfMillis millis) ∧
      ((instantOfMillis millis).HasShortYear →
        timestamp? (.string (instantOfMillis millis).text) =
          timestamp? (millisValue millis inCalendar))) ∧
    (⟨1970, 1, 1⟩ : Date).toDays = 0 ∧
    ∀ d : Date, d.IsProper → d.next.IsProper ∧ d.next.toDays = d.toDays + 1 := by
  refine ⟨?_, ?_, ?_, rfl, fun d proper => ⟨proper.next, Date.toDays_next proper⟩⟩
  · intro f valid between apart
    have utc := Face.ofText?_zone valid apart Zone.isValid_utc
    have nothing : Zone.utc.seconds = 0 := rfl
    rw [nothing, Int.sub_zero] at utc
    exact ⟨Face.ofText?_naive valid apart, Face.ofText?_utc valid apart, utc,
      fun z zone_valid => Face.ofText?_zone valid apart zone_valid⟩
  · intro before text after blank_before blank_after
    exact Timestamp.ofText?_append blank_before blank_after text
  · intro millis inCalendar
    have counted := timestamp?_millisValue inCalendar
    refine ⟨counted, ?_⟩
    intro year
    rw [counted]
    exact Instant.ofText?_text (isProper_instantOfMillis millis) year

/-- The leap second at the end of 2016. -/
def leapSecond : Face where
  date := ⟨2016, 12, 31⟩
  hour := 23
  minute := 59
  second := 60
  fraction := ['5']

theorem isValid_leapSecond : leapSecond.IsValid where
  year := by decide
  date := ⟨by decide, by decide⟩
  hour := by decide
  minute := by decide
  second := by decide
  fraction := by
    intro c member
    exact List.mem_singleton.mp member ▸ rfl

theorem timestamp_notations_agree_of_leapSecond :
    timestamp? (textValue "2016-12-31T23:59:60.5".toList) = some ⟨1483228799, 1500000000⟩ ∧
      timestamp? (textValue " 2016-12-31 23:59:60.5-00:30\u2003".toList) =
        some ⟨1483230599, 1500000000⟩ ∧
      timestamp? (millisValue (-1) (by decide)) = some ⟨-1, 999000000⟩ ∧
      timestamp? (textValue "1969-12-31T23:59:59.999Z".toList) = some ⟨-1, 999000000⟩ := by
  obtain ⟨faces, blanks, counts, -⟩ := timestamp_notations_agree
  obtain ⟨naive, -⟩ := faces leapSecond isValid_leapSecond 'T' (.inl rfl)
  obtain ⟨-, -, -, zoned⟩ := faces leapSecond isValid_leapSecond ' ' (.inr rfl)
  have west := zoned ⟨false, 0, 30⟩ ⟨by decide, by decide⟩
  obtain ⟨counted, written⟩ := counts (-1) (by decide)
  have shape : leapSecond.chars 'T' = "2016-12-31T23:59:60.5".toList := by decide
  have zone_shape : [' '] ++ (leapSecond.chars ' ' ++ Zone.chars ⟨false, 0, 30⟩) ++ ['\u2003'] =
      " 2016-12-31 23:59:60.5-00:30\u2003".toList := by decide
  have text_shape : (instantOfMillis (-1)).chars = "1969-12-31T23:59:59.999Z".toList := by decide
  refine ⟨?_, ?_, counted, ?_⟩
  · rw [← shape, naive]
    rfl
  · rw [← zone_shape, blanks _ _ _ (by decide) (by decide), west]
    rfl
  · rw [← text_shape]
    exact (written ⟨by decide, by decide⟩).trans counted

end StreamingChat.Chat
