/-!
# Faults of JSON text

What the first fault of a text is. Reading stops at it, so a wrong shape that shows early hides
broken text that comes later.
-/

namespace Hotplug.Json

inductive Fault where
  /-- It is not JSON, or not the JSON that a record may be. -/
  | malformed
  /-- It ends too early. -/
  | truncated
  /-- It is JSON that does not have the shape of the record. -/
  | mismatch
deriving DecidableEq, Repr

end Hotplug.Json
