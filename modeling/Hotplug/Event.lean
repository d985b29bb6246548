import Hotplug.Device.Record
/-!
# Events

What a registry announces when devices come and go.
-/

namespace Hotplug

inductive Event where
  | attached (id : DeviceId) (name : String) (location : Path)
  | detached (id : DeviceId) (location : Path)
deriving DecidableEq, Repr

namespace Event

def id : Event → DeviceId
  | attached i _ _ => i
  | detached i _ => i

def location : Event → Path
  | attached _ _ l => l
  | detached _ l => l

def isAttach : Event → Bool
  | attached .. => true
  | detached .. => false

def arrival (d : AttachedDevice) : Event :=
  .attached d.id d.name d.location

def departure (d : AttachedDevice) : Event :=
  .detached d.id d.location

end Event

end Hotplug
