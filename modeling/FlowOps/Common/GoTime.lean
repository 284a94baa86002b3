import Mathlib.Tactic

/-!
# `time.Time`

An instant in nanoseconds since the Go zero time `0001-01-01T00:00:00Z`,
together with the zone offset in minutes that `MarshalJSON` prints. Every clock
reading the programs store has passed through `UTC()`, so its zone is `0` and Go's
`==` on it is equality of instants; times supplied by a caller keep their zone,
which the JSON text and therefore `equalJSON` shows.
-/

namespace FlowOps

structure Time where
  ns : ℤ
  zone : ℤ := 0
deriving DecidableEq

namespace Time

/-- `t.IsZero()`. -/
def isZero (t : Time) : Bool := t.ns = 0

/-- `t.UTC()`. -/
def utc (t : Time) : Time := { t with zone := 0 }

/-- `t.Before(u)`. -/
def before (t u : Time) : Bool := t.ns < u.ns

/-- `t.After(u)`. -/
def after (t u : Time) : Bool := u.ns < t.ns

/-- `t.Add(d)` for a duration `d` in nanoseconds. -/
def add (t : Time) (d : ℤ) : Time := { t with ns := t.ns + d }

/-- `t.Sub(u)`: a `time.Duration`, which saturates at the `int64` bounds. -/
def sub (t u : Time) : ℤ := max (-2 ^ 63) (min (2 ^ 63 - 1) (t.ns - u.ns))

/-- Seconds from the Go zero time to the Unix epoch. -/
def unixToInternal : ℤ := 62135596800

/-- `t.Unix()`. -/
def unix (t : Time) : ℤ := t.ns / 1000000000 - unixToInternal

/-- `t.UnixNano()`, which wraps outside `int64`. -/
def unixNano (t : Time) : ℤ := (t.ns - unixToInternal * 1000000000).bmod (2 ^ 64)

/-- `time.Unix(sec, 0)`: the internal second count is an `int64`. -/
def ofUnix (sec : ℤ) : Time := { ns := (sec + unixToInternal).bmod (2 ^ 64) * 1000000000 }

/-- `MarshalJSON` succeeds: the local year is in `[0, 9999]` and the zone is
less than a day. -/
def marshals (t : Time) : Bool :=
  let wall := t.ns + t.zone * 60000000000
  decide (-31622400000000000 ≤ wall ∧ wall < 315537897600000000000 ∧ -1440 < t.zone ∧ t.zone < 1440)

@[simp] lemma utc_ns (t : Time) : t.utc.ns = t.ns := rfl
@[simp] lemma utc_zone (t : Time) : t.utc.zone = 0 := rfl

@[simp] lemma isZero_iff (t : Time) : t.isZero ↔ t.ns = 0 := by simp [isZero]

@[simp] lemma before_iff (t u : Time) : t.before u ↔ t.ns < u.ns := by simp [before]

end Time

end FlowOps
