import Vetting.Calendar

/-!
# Instants

A point in time to the nanosecond, counted from the start of 1970 in UTC.
-/

namespace Vetting

/-- `nanos` nanoseconds, fewer than a second, after `seconds` whole seconds. -/
structure Instant where
  seconds : Int
  nanos : Nat
deriving DecidableEq

namespace Instant

/-- The first instant comes later. -/
def isAfter (later earlier : Instant) : Bool :=
  earlier.seconds < later.seconds ||
    (earlier.seconds == later.seconds && earlier.nanos < later.nanos)

/-- The milliseconds of the first instant of the year -262143. -/
def firstMillisecond : Int := -8334601228800000

/-- The milliseconds of the last instant of the year 262142. -/
def lastMillisecond : Int := 8210266876799999

/-- The instant that many milliseconds after the start of 1970, if its year is one of those above. -/
def ofMilliseconds? (milliseconds : Int) : Option Instant :=
  if firstMillisecond ≤ milliseconds ∧ milliseconds ≤ lastMillisecond then
    some ⟨milliseconds / 1000, (milliseconds % 1000).toNat * 1000000⟩
  else none

end Instant

end Vetting
