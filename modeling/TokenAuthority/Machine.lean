/-!
What a process can hold.

Values are read and written by recursion, so that their arrays and objects may be nested only as
deep as the stack reaches, and octets have to fit into memory.
-/

namespace TokenAuthority

structure Machine where
  /-- How many levels of nesting the stack has room for. -/
  levels : Nat
  /-- How many octets there may be at once. -/
  octets : Nat
deriving DecidableEq, Repr

/-- A stack of a thousand calls, of which the service itself takes some, and 64 GiB of memory. -/
def Machine.usual : Machine := ⟨900, 0x10_0000_0000⟩

end TokenAuthority
