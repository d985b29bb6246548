import Hotplug.Error
/-!
# Configuration

Where the mount table and the directories about block devices are, how often the table is read
again, and how many events are kept for a reader.
-/

namespace Hotplug

structure Config where
  mountsPath : Path
  sysfsPath : Path
  diskByUuidPath : Path
  diskByLabelPath : Path
  pollIntervalSecs : Nat
  eventChannelCapacity : Nat
deriving DecidableEq, Repr

namespace Config

def default : Config where
  mountsPath := .ofString "/proc/self/mounts"
  sysfsPath := .ofString "/sys"
  diskByUuidPath := .ofString "/dev/disk/by-uuid"
  diskByLabelPath := .ofString "/dev/disk/by-label"
  pollIntervalSecs := 2
  eventChannelCapacity := 256

instance : Inhabited Config := ⟨default⟩

/-- Both numbers have to be positive; the interval is looked at first. -/
def validate (c : Config) : Except Error Unit :=
  if c.pollIntervalSecs = 0 then .error (.configuration .zeroPollInterval)
  else if c.eventChannelCapacity = 0 then .error (.configuration .zeroEventCapacity)
  else .ok ()

end Config

end Hotplug
