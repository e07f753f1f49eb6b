import TokenAuthority.Time.Duration

/-!
The two clocks of a process.

The wall clock tells dates, and the ticking clock measures time spans.  Both advance together.  The
ticking clock counts nanoseconds in 64 bits and is read as a floating-point number of seconds.
-/

namespace TokenAuthority

/-- The readings of the clocks. -/
structure Clock where
  /-- Microseconds since 1970. -/
  wall : Int
  /-- Milliseconds since an unspecified instant. -/
  ticks : Int
deriving DecidableEq, Repr

namespace Clock

def advance (clock : Clock) (milliseconds : Int) : Clock :=
  ⟨clock.wall + milliseconds * 1000, clock.ticks + milliseconds⟩

/-- The last millisecond that a count of nanoseconds in 64 bits holds. -/
def tickLimit : Int := 9223372036854

/-- The millisecond at which the ticking clock stands; it does not leave its range. -/
def reading (clock : Clock) : Int :=
  max (-tickLimit) (min tickLimit clock.ticks)

def seconds (clock : Clock) : Binary64 :=
  Binary64.ofRatio clock.reading 1000

end Clock

end TokenAuthority
