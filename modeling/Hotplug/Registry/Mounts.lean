import Hotplug.BlockDevice
import Hotplug.Channel
import Hotplug.Config.Basic
import Hotplug.MountTable
import Hotplug.Registry.Basic
/-!
# The registry of the mount table

A registry of the removable block devices that are mounted. `refresh` reads the mount table and
what the system says of each block device, and announces the difference: first the departures, then
the arrivals, each in the order of their locations. A device that is still at its place keeps its
record.
-/

namespace Hotplug

structure MountRegistry where
  config : Config
  /-- The mount points of the table read last, removable or not, in table order. -/
  points : List Path
  /-- The removable devices, ascending by location. -/
  devices : List AttachedDevice
  events : Channel Event
deriving Repr

structure Sighting where
  point : Path
  block : String
deriving DecidableEq, Repr

namespace MountRegistry

def new (config : Config) : MountRegistry :=
  ⟨config, [], [], .new config.eventChannelCapacity⟩

def recordAt? (devices : List AttachedDevice) (point : Path) : Option AttachedDevice :=
  devices.find? (·.location.Same point)

def sightings (config : Config) (t : FileTree) (mounts : List Mount) : List Sighting :=
  mounts.filterMap fun m =>
    (m.blockName? t).bind fun block =>
      if BlockDevice.isRemovable t config.sysfsPath block then some ⟨m.point, block⟩ else none

/-- The id of the file system on a block device, or else the name of the device. -/
def uniqueIdOf (config : Config) (t : FileTree) (block : String) : String :=
  match BlockDevice.linkName? t config.diskByUuidPath block with
  | some uuid => "UUID:" ++ uuid
  | none => "DEV:" ++ block

/-- The label of the file system, or else the model of the disk, or else the name of the device. -/
def nameOf (config : Config) (t : FileTree) (block : String) : String :=
  match BlockDevice.linkName? t config.diskByLabelPath block with
  | some label => label
  | none => (BlockDevice.model? t config.sysfsPath block).getD block

def newRecord (config : Config) (t : FileTree) (now : Instant) (s : Sighting) : AttachedDevice where
  id := .make (if BlockDevice.hasDcim t s.point then .withDcim else .withoutDcim)
    (uniqueIdOf config t s.block)
  name := nameOf config t s.block
  location := s.point
  attachedAt := now

/-- The record of a device: the one it had, if it was at this place before. -/
def recordOf (config : Config) (t : FileTree) (now : Instant) (previous : List AttachedDevice)
    (s : Sighting) : AttachedDevice :=
  match recordAt? previous s.point with
  | some d => if d.id.uniqueId = uniqueIdOf config t s.block then d else newRecord config t now s
  | none => newRecord config t now s

/-- The devices by location; of several at one place the last one counts. -/
def byLocation (ds : List AttachedDevice) : List AttachedDevice :=
  ds.foldl (fun acc d => insertBy AttachedDevice.compareLocation d acc) []

def isUnchanged (ds : List AttachedDevice) (d : AttachedDevice) : Bool :=
  (recordAt? ds d.location).any (·.id = d.id)

def difference (previous current : List AttachedDevice) : List Event :=
  (previous.filter (!isUnchanged current ·)).map .departure ++
    (current.filter (!isUnchanged previous ·)).map .arrival

def refresh (r : MountRegistry) (t : FileTree) (now : Instant) :
    Except Error (List Event × MountRegistry) :=
  match t.readText r.config.mountsPath with
  | .error e => .error (.file e)
  | .ok table =>
    let mounts := Mount.parse table
    let seen := sightings r.config t mounts
    let devices := byLocation (seen.map (recordOf r.config t now r.devices))
    let events := difference r.devices devices
    .ok (events,
      { r with
        points := mounts.map (·.point)
        devices := devices
        events := r.events.sendAll events })

/-- The device at the deepest mount point that contains a path. A fixed disk mounted there has no
record, so nothing is found. -/
def deviceAt? (r : MountRegistry) (p : Path) : Option AttachedDevice :=
  (lastMax? Path.depth (r.points.filter p.startsWith)).bind (recordAt? r.devices)

instance : Registry MountRegistry where
  attached r := r.devices
  deviceAt? := deviceAt?

def open? (config : Config) (t : FileTree) (now : Instant) : Except Error MountRegistry := do
  config.validate
  let (_, r) ← (new config).refresh t now
  return r

end MountRegistry

end Hotplug
