/-!
# Kinds of device

The four kinds of storage device, the tag that leads their ids, and what each kind is good for.
-/

namespace Hotplug

inductive DeviceKind where
  /-- Removable mass storage that holds a `DCIM` directory, as cameras make. -/
  | withDcim
  /-- Other removable mass storage. -/
  | withoutDcim
  /-- Fixed mass storage, known by its path. -/
  | fixed
  /-- A device reached over a media transfer protocol. -/
  | mtp
deriving DecidableEq, Repr

namespace DeviceKind

def all : List DeviceKind := [.withDcim, .withoutDcim, .fixed, .mtp]

def tag : DeviceKind → String
  | .withDcim => "dcim"
  | .withoutDcim => "nodcim"
  | .fixed => "path"
  | .mtp => "mtp"

def lead (k : DeviceKind) : String :=
  k.tag ++ ":"

def ofLead? (s : String) : Option DeviceKind :=
  all.find? (·.lead = s)

def name : DeviceKind → String
  | .withDcim => "removable_mass_storage_with_dcim"
  | .withoutDcim => "removable_mass_storage_no_dcim"
  | .fixed => "fixed_mass_storage"
  | .mtp => "mtp_or_ptp"

def ofName? (s : String) : Option DeviceKind :=
  all.find? (·.name = s)

def index (k : DeviceKind) : Nat :=
  all.idxOf k

def isMedia : DeviceKind → Bool
  | .withDcim | .mtp => true
  | _ => false

def isRemovable : DeviceKind → Bool
  | .fixed => false
  | _ => true

def isMassStorage : DeviceKind → Bool
  | .mtp => false
  | _ => true

end DeviceKind

end Hotplug
