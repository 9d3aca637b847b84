import StreamingChat.Calendar.Instant

/-!
A moment as a program reads it from its clocks, and durations in whole nanoseconds.
-/

namespace StreamingChat.Calendar

def nanosPerMilli : Nat := 1000000

/-- Nanoseconds of a clock that only runs forward, and the time of day for what is written down. -/
structure Moment where
  tick : Nat
  clock : Instant

/-- Rounds a tick up to whole milliseconds, the grain of timers. -/
def ceilMilli (tick : Nat) : Nat :=
  (tick + nanosPerMilli - 1) / nanosPerMilli * nanosPerMilli

theorem le_ceilMilli (tick : Nat) : tick ≤ ceilMilli tick := by
  simp only [ceilMilli, nanosPerMilli]
  omega

theorem ceilMilli_lt (tick : Nat) : ceilMilli tick < tick + nanosPerMilli := by
  simp only [ceilMilli, nanosPerMilli]
  omega

end StreamingChat.Calendar
