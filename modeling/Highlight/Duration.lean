/-!
# Durations

A duration is told to the nanosecond: as whole seconds, and the nanoseconds beyond them. What is
counted in seconds only sees the whole ones.
-/

namespace Highlight

/-- The nanoseconds in a second. -/
def nanosPerSecond : Nat := Nat.pow 10 9

/-- The second that a time in nanoseconds falls in. -/
def secondOf (time : Nat) : Nat := time / nanosPerSecond

/-- A length of time. -/
structure Duration where
  /-- The whole seconds. -/
  seconds : Nat
  /-- The nanoseconds beyond the whole seconds. -/
  nanos : Fin nanosPerSecond
  deriving DecidableEq, Repr

namespace Duration

/-- A number of whole seconds. -/
def ofSeconds (seconds : Nat) : Duration := ⟨seconds, ⟨0, by decide⟩⟩

/-- A numeral is a number of seconds. -/
instance (n : Nat) : OfNat Duration n := ⟨ofSeconds n⟩

/-- The length in nanoseconds. -/
def nanoseconds (duration : Duration) : Nat :=
  duration.seconds * nanosPerSecond + duration.nanos

/-- No time at all is the only duration without a nanosecond. -/
theorem nanoseconds_eq_zero {duration : Duration} : duration.nanoseconds = 0 ↔ duration = 0 := by
  constructor
  · intro none
    obtain ⟨seconds, nanos, small⟩ := duration
    obtain ⟨whole, beyond⟩ := Nat.add_eq_zero_iff.mp none
    have whole : seconds = 0 := (Nat.mul_eq_zero.mp whole).resolve_right (by decide)
    subst whole
    have beyond : nanos = 0 := beyond
    subst beyond
    rfl
  · rintro rfl
    rfl

theorem nanoseconds_pos {duration : Duration} (h : duration ≠ 0) : 0 < duration.nanoseconds :=
  Nat.pos_of_ne_zero fun none => h (nanoseconds_eq_zero.mp none)

end Duration

end Highlight
