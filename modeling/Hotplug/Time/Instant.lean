/-!
# Instants

A point in time, counted in seconds from the start of 1970 in UTC. The nanoseconds of a leap second
run from one to two thousand million within the second before it.
-/

namespace Hotplug

structure Instant where
  seconds : Int
  nanos : Nat
deriving DecidableEq, Repr, Inhabited

end Hotplug
