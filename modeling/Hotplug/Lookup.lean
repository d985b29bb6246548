import Hotplug.Registry.Basic
/-!
# Looking up devices

Which device holds a path, where a device is, and whether it is attached. Removable devices are
known to a registry. A fixed device is its own path: it is attached if something exists there, which
only the file system can tell, so the check of such an id is a path to probe.
-/

namespace Hotplug

inductive Check where
  | known (attached : Bool)
  | probe (path : Path)
deriving DecidableEq, Repr

namespace Check

def answer (exists_ : Path → Bool) : Check → Bool
  | known b => b
  | probe p => exists_ p

def probes : Check → List Path
  | known _ => []
  | probe p => [p]

end Check

namespace Lookup

variable {σ : Type} [Registry σ]

def checkId (s : σ) (id : DeviceId) : Check :=
  match id.kind with
  | .fixed => .probe (.ofString id.uniqueId)
  | _ => .known (Registry.locationOf? s id.text).isSome

def check (s : σ) (id : String) : Except Breach Check :=
  (DeviceId.trusted id).map (checkId s)

/-- The location of a device, where a fixed device is its own location. -/
def pathOfId? (s : σ) (id : DeviceId) : Option Path :=
  match id.kind with
  | .fixed => some (.ofString id.uniqueId)
  | _ => Registry.locationOf? s id.text

def pathOf? (s : σ) (id : String) : Except Breach (Option Path) :=
  (DeviceId.trusted id).map (pathOfId? s)

def fixedOwner (p : Path) : PathOwner where
  id := .make .fixed p.toStringLossy
  name := ((p.fileName?.map Utf8.toStringLossy).getD p.toStringLossy)
  relativePath := .empty

/-- The device that holds an absolute path: the removable device it lies on, or else the path as a
fixed device. -/
def ownerOf? (s : σ) (p : Path) : Option PathOwner :=
  if p.isAbsolute then
    match (Registry.deviceAt? s p).filter (·.id.isRemovable) with
    | some d => some ⟨d.id, d.name, (p.relativeTo? d.location).getD .empty⟩
    | none => some (fixedOwner p)
  else none

def mediaDevices (s : σ) : List AttachedDevice :=
  (Registry.attached s).filter (·.id.isMedia)

end Lookup

end Hotplug
