import Hotplug.Proofs.Channel.Audience
import Hotplug.Proofs.Registry.History
import Hotplug.Proofs.Registry.Roll
/-!
# What the registries announce

The registry of the mount table announces the lists that its readings return, and the registry in
memory one event for every call that succeeds (`MemoryRegistry.exists_event_of_ok`). Both are
faithful to whoever listens, however many there are and whatever they do.
-/

namespace Hotplug

namespace MountRegistry

instance : Announcer MountRegistry Reading where
  channel := events
  call := attempt
  channel_call := events_attempt

end MountRegistry

namespace MemoryRegistry

def event? : Call → Answer → Option Event
  | .attach d, .ok _ => some (.arrival d)
  | .detach _, .ok d => d.map .departure
  | _, .error _ => none

instance : Announcer MemoryRegistry Call where
  channel := events
  call r c := ((event? c (r.attempt c).1).toList, (r.attempt c).2)
  channel_call r c := by
    cases c with
    | attach d =>
      simp only [attempt, attach]
      cases r.find? d.id.text <;> rfl
    | detach id =>
      simp only [attempt, detach]
      cases r.find? id <;> rfl

end MemoryRegistry

end Hotplug
