import TokenAuthority.Store.Pattern
import TokenAuthority.Store.Table
import TokenAuthority.Time.Duration

/-!
The key server that holds revocation entries outside the process.

Deadlines are microseconds of the wall clock, and a key is gone once its deadline is strictly
behind.  The server knows single keys and patterns; removing the tokens of a user is a scan for the
pattern of the user's keys and one removal per key found.  A removal may fail, which leaves its
key alone, and so may the scan.

Keys are octets.  One is told here by the text that they encode, with a low surrogate for each octet
that is part of no character; a key that holds surrogates can be found, but it is not decoded.
-/

namespace TokenAuthority

structure KeyServer where
  entries : Table Int
deriving DecidableEq, Repr

namespace KeyServer

def empty : KeyServer := ⟨[]⟩

def liveDeadline? (server : KeyServer) (now : Int) (key : Text) : Option Int :=
  (server.entries.find? key).filter (now ≤ ·)

def set (server : KeyServer) (now : Int) (key : Text) (seconds : Int) : KeyServer :=
  ⟨server.entries.set key (now + seconds * microsecondsPerSecond)⟩

def delete (server : KeyServer) (now : Int) (key : Text) : Nat × KeyServer :=
  (if (server.liveDeadline? now key).isSome then 1 else 0, ⟨server.entries.erase key⟩)

def contains (server : KeyServer) (now : Int) (key : Text) : Bool :=
  (server.liveDeadline? now key).isSome

/-- The keys that are there and fit a pattern. -/
def scan (server : KeyServer) (now : Int) (pattern : Text) : List Text :=
  Table.keys (server.entries.filter fun entry =>
    decide (now ≤ entry.2) && Pattern.matchesKey pattern entry.1)

structure Sweep where
  removed : Nat
  failed : Nat
  /-- Whether the sweep broke off before its last key. -/
  brokenOff : Bool
  server : KeyServer

/-- Remove keys one by one, except those whose removal fails.  Such a key is decoded for the record;
where that is not possible the sweep breaks off. -/
def sweep (fails : Text → Bool) (now : Int) : KeyServer → List Text → Sweep
  | server, [] => ⟨0, 0, false, server⟩
  | server, key :: rest =>
      if fails key then
        if key.isEncodable then
          let swept := sweep fails now server rest
          { swept with failed := swept.failed + 1 }
        else ⟨0, 1, true, server⟩
      else
        let (count, server) := server.delete now key
        let swept := sweep fails now server rest
        { swept with removed := swept.removed + count }

/-- The keys that are there, with the milliseconds that they have left. -/
def remaining (server : KeyServer) (now : Int) : List (Text × Int) :=
  (server.entries.filter fun entry => now ≤ entry.2).map fun entry =>
    (entry.1, (entry.2 - now) / 1000)

end KeyServer

end TokenAuthority
