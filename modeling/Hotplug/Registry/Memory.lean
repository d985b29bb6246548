import Hotplug.Channel
import Hotplug.Registry.Basic
/-!
# The registry in memory

A registry that its owner feeds, for devices that no mount table shows. It is a finite map from the
texts of ids to devices; attaching an id twice and detaching one that is absent are refused.
-/

namespace Hotplug

structure MemoryRegistry where
  /-- The devices, each behind its key, ascending by key. -/
  entries : List (String × AttachedDevice)
  events : Channel Event
deriving Repr

namespace MemoryRegistry

def defaultCapacity : Nat := 256

def new (capacity : Nat) : MemoryRegistry :=
  ⟨[], .new capacity⟩

def devices (r : MemoryRegistry) : List AttachedDevice :=
  r.entries.map (·.2)

def compareKey (a b : String × AttachedDevice) : Ordering :=
  compare a.1 b.1

def find? (r : MemoryRegistry) (id : String) : Option AttachedDevice :=
  (r.entries.find? (·.1 = id)).map (·.2)

def attach (r : MemoryRegistry) (d : AttachedDevice) : Except Error MemoryRegistry :=
  match r.find? d.id.text with
  | some _ => .error (.deviceAlreadyAttached d.id.text)
  | none =>
    .ok ⟨insertBy compareKey (d.id.text, d) r.entries, r.events.send (.arrival d)⟩

def detach (r : MemoryRegistry) (id : String) : Except Error (AttachedDevice × MemoryRegistry) :=
  match r.find? id with
  | none => .error (.deviceNotFound id)
  | some d =>
    .ok (d, ⟨r.entries.filter (·.1 ≠ id), r.events.send (.departure d)⟩)

def size (r : MemoryRegistry) : Nat :=
  r.entries.length

def isEmpty (r : MemoryRegistry) : Bool :=
  r.entries.isEmpty

instance : Registry MemoryRegistry where
  attached r := r.devices
  deviceAt? r p := AttachedDevice.deepestContaining? r.devices p
  locationOf? r id := (r.find? id).map (·.location)

end MemoryRegistry

end Hotplug
