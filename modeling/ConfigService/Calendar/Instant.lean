import ConfigService.Calendar.Clock
/-!
# Instant — a moment to the nanosecond

A clock shows more than whole seconds.  A leap second has no number of its own: it is the second billion of nanoseconds of
the second before it, so a fraction may come close to two seconds.
-/
namespace ConfigService

/-- A moment and the nanoseconds that have passed since it began. -/
structure Instant where
  moment : Moment
  nanos : Nat
  isFraction : nanos < 2000000000
  deriving DecidableEq

namespace Instant

/-- The instant at which a moment begins. -/
def ofMoment (m : Moment) : Instant := ⟨m, 0, by decide⟩

/-- The beginning of the second that an instant falls in. -/
def whole (i : Instant) : Instant := ofMoment i.moment

/-- The instant some seconds later.  The fraction is kept, also that of a leap second. -/
def after (i : Instant) (seconds : Int) : Instant :=
  { i with moment := Moment.ofSeconds (i.moment.seconds + seconds) }

end Instant

end ConfigService
