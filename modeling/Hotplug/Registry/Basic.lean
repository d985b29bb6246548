import Hotplug.Event
/-!
# Registries

A registry knows the devices attached now. It is asked for all of them, for the device that a path
lies on, and for the location of a device by its id.

Both registries keep their devices in a list that ascends by a key; `insertBy` puts an element into
its place there and replaces the element of equal key, if there is one.
-/

namespace Hotplug

class Registry (σ : Type) where
  attached : σ → List AttachedDevice
  deviceAt? : σ → Path → Option AttachedDevice
  /-- Where the device with this id is: the first one attached, unless said otherwise. -/
  locationOf? : σ → String → Option Path := fun s id =>
    ((attached s).find? (·.id.text = id)).map (·.location)

def insertBy {α : Type} (order : α → α → Ordering) (x : α) : List α → List α
  | [] => [x]
  | y :: ys =>
    match order x y with
    | .lt => x :: y :: ys
    | .eq => x :: ys
    | .gt => y :: insertBy order x ys

namespace AttachedDevice

def compareLocation (a b : AttachedDevice) : Ordering :=
  a.location.compare b.location

end AttachedDevice

end Hotplug
