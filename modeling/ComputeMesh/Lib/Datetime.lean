import Mathlib

/-!
# Datetimes with and without a time zone

A datetime is a wall clock between the years 1 and 9999, counted in microseconds, and perhaps an offset from
UTC.  Converting an aware one to UTC shifts the wall clock, which can leave the range; comparing two aware
ones does not.

* `AwareDatetime.astimezone` — the conversion, `none` where it overflows;
* `UtcTime.aware` / `astimezone_aware` — a UTC time is an aware datetime that converts to itself.
-/

namespace ComputeMesh

/-- The microseconds of the years 1 to 9999. -/
def maxMicros : ℤ := 315537897600000000

/-- A time in UTC, in microseconds since the start of year 1. -/
structure UtcTime where
  micros : ℤ
  nonneg : 0 ≤ micros
  lt_max : micros < maxMicros
  deriving DecidableEq

theorem UtcTime.ext_micros {s t : UtcTime} (h : s.micros = t.micros) : s = t := by
  cases s
  cases t
  simpa using h

/-- A wall clock with its offset from UTC. -/
structure AwareDatetime where
  wall : ℤ
  utcOffset : ℤ
  wall_nonneg : 0 ≤ wall
  wall_lt_max : wall < maxMicros
  deriving DecidableEq

namespace AwareDatetime

/-- The instant, on the scale of `UtcTime.micros` but without its bounds. -/
def instant (d : AwareDatetime) : ℤ := d.wall - d.utcOffset

/-- `astimezone(UTC)`; `none` is an `OverflowError`. -/
def astimezone (d : AwareDatetime) : Option UtcTime :=
  if h : 0 ≤ d.instant ∧ d.instant < maxMicros then some ⟨d.instant, h.1, h.2⟩ else none

theorem micros_astimezone {d : AwareDatetime} {t : UtcTime} (h : d.astimezone = some t) : t.micros = d.instant := by
  unfold astimezone at h
  split at h
  · cases h
    rfl
  · cases h

end AwareDatetime

def UtcTime.aware (t : UtcTime) : AwareDatetime := ⟨t.micros, 0, t.nonneg, t.lt_max⟩

@[simp] theorem UtcTime.instant_aware (t : UtcTime) : t.aware.instant = t.micros := Int.sub_zero _

@[simp] theorem UtcTime.astimezone_aware (t : UtcTime) : t.aware.astimezone = some t := by
  unfold AwareDatetime.astimezone
  rw [dif_pos ⟨by rw [instant_aware]; exact t.nonneg, by rw [instant_aware]; exact t.lt_max⟩]
  exact congrArg some (UtcTime.ext_micros t.instant_aware)

/-- A datetime object. -/
inductive Datetime
  | naive (wall : ℤ)
  | aware (d : AwareDatetime)
  deriving DecidableEq

/-- `timestamp()`: the seconds since 1970. -/
def UtcTime.timestamp (t : UtcTime) : ℚ := (t.micros - 62135596800000000) / 1000000

end ComputeMesh
