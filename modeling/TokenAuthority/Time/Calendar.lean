import TokenAuthority.Time.Duration

/-!
Dates of instants.

Days are counted in eras of 400 years, which begin with a March, so that the leap day is the last
day of a year.  The text of an instant is its date and time to the millisecond, in universal time.
-/

namespace TokenAuthority

structure Date where
  year : Int
  month : Nat
  day : Nat
deriving DecidableEq, Repr

def Date.ofDays (days : Int) : Date :=
  let shifted := days + 719468
  let era := shifted.fdiv 146097
  let dayOfEra := (shifted - era * 146097).toNat
  let yearOfEra := (dayOfEra - dayOfEra / 1460 + dayOfEra / 36524 - dayOfEra / 146096) / 365
  let dayOfYear := dayOfEra - (365 * yearOfEra + yearOfEra / 4 - yearOfEra / 100)
  let monthFromMarch := (5 * dayOfYear + 2) / 153
  let month := if monthFromMarch < 10 then monthFromMarch + 3 else monthFromMarch - 9
  { year := era * 400 + yearOfEra + (if month ≤ 2 then 1 else 0)
    month
    day := dayOfYear - (153 * monthFromMarch + 2) / 5 + 1 }

def paddedDecimal (width value : Nat) : String :=
  let digits := Nat.toDigits 10 value
  String.ofList (List.replicate (width - digits.length) '0' ++ digits)

namespace Instant

def microsecondsPerDay : Int := 86400000000

def text (instant : Int) : String :=
  let days := instant.fdiv microsecondsPerDay
  let milliseconds := ((instant - days * microsecondsPerDay) / 1000).toNat
  let seconds := milliseconds / 1000
  let date := Date.ofDays days
  paddedDecimal 4 date.year.toNat ++ "-" ++ paddedDecimal 2 date.month ++ "-" ++
    paddedDecimal 2 date.day ++ "T" ++ paddedDecimal 2 (seconds / 3600) ++ ":" ++
    paddedDecimal 2 (seconds / 60 % 60) ++ ":" ++ paddedDecimal 2 (seconds % 60) ++ "." ++
    paddedDecimal 3 (milliseconds % 1000) ++ "+00:00"

/-- The instant of a number of seconds, to the microsecond: the part of a second is multiplied,
which rounds it, before the nearest microsecond is taken. -/
def ofSeconds? (seconds : Binary64) : Option Int :=
  match seconds with
  | .finite negative units =>
      let part := Binary64.roundUnits (units % Binary64.one * microsecondsPerSecond) 1
      let instant := Binary64.signedUnits negative
        (units / Binary64.one * microsecondsPerSecond + Binary64.roundHalfEven part Binary64.one)
      if isInRange instant then some instant else none
  | _ => none

end Instant

end TokenAuthority
