import TokenAuthority.Number.Binary64

/-!
Durations and instants in whole microseconds.

Durations are bounded by a count of days, and instants by the years 1 and 9999.  Whole seconds are
taken through the binary64 number nearest to the quotient, so that a duration of very many seconds
may be rounded up.
-/

namespace TokenAuthority

def microsecondsPerSecond : Nat := 1000000

/-- The number of seconds nearest to a count of microseconds. -/
def secondsOf (microseconds : Int) : Binary64 :=
  Binary64.ofRatio microseconds microsecondsPerSecond

/-- The whole seconds of a count of microseconds, towards zero. -/
def wholeSecondsOf (microseconds : Int) : Int :=
  (secondsOf microseconds).truncate?.getD 0

namespace Duration

def least : Int := -86399999913600000000

def greatest : Int := 86399999999999999999

def isInRange (microseconds : Int) : Bool :=
  least ≤ microseconds && microseconds ≤ greatest

/-- The seconds for which a store keeps an entry of a given lifetime, at least one. -/
def storeSeconds (microseconds : Int) : Int :=
  max 1 (wholeSecondsOf microseconds)

end Duration

namespace Instant

def least : Int := -62135596800000000

def greatest : Int := 253402300799999999

def isInRange (microseconds : Int) : Bool :=
  least ≤ microseconds && microseconds ≤ greatest

def floorToSecond (microseconds : Int) : Int :=
  microseconds.fdiv microsecondsPerSecond * microsecondsPerSecond

/-- The instant a duration after another one, when it is in range. -/
def after? (instant duration : Int) : Option Int :=
  if isInRange (instant + duration) then some (instant + duration) else none

end Instant

end TokenAuthority
