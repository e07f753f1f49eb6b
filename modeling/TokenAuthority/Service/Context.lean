import TokenAuthority.Time.Clock

/-!
Call contexts.

A context carries what a caller gives to a call besides its arguments: an identifier for the
reports, a deadline on the ticking clock, and a signal by which the caller may cancel.
-/

namespace TokenAuthority

abbrev Signal := Nat

/-- The context of a call. -/
structure Context where
  requestId : Option String := none
  /-- In seconds of the ticking clock. -/
  deadline : Option Binary64 := none
  signal : Option Signal := none
deriving DecidableEq, Repr

namespace Context

/-- The deadline a number of seconds from now; only a positive number sets one. -/
def deadlineAfter (clock : Clock) (seconds : Binary64) : Option Binary64 :=
  if seconds.isPositive then some (clock.seconds.add seconds) else none

def withTimeout (clock : Clock) (seconds : Option Binary64) (requestId : Option String := none)
    (signal : Option Signal := none) : Context :=
  ⟨requestId, seconds.bind (deadlineAfter clock), signal⟩

def remaining? (context : Context) (clock : Clock) : Option Binary64 :=
  context.deadline.map fun deadline => deadline.sub clock.seconds

def deadlineReached (context : Context) (clock : Clock) : Bool :=
  match context.deadline with
  | some deadline => deadline.atMost clock.seconds
  | none => false

def isCancelled (context : Context) (raised : List Signal) : Bool :=
  match context.signal with
  | some signal => raised.contains signal
  | none => false

/-- Whether the call must not go on. -/
def hasExpired (context : Context) (clock : Clock) (raised : List Signal) : Bool :=
  context.isCancelled raised || context.deadlineReached clock

end Context

end TokenAuthority
