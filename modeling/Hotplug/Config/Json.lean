import Hotplug.Config.Basic
import Hotplug.Device.Json
/-!
# Configurations in JSON

Every field may be left out and is then that of the default configuration.
-/

namespace Hotplug.Config

open Json (Reader Record)

structure Given where
  mountsPath : Option Path := none
  sysfsPath : Option Path := none
  diskByUuidPath : Option Path := none
  diskByLabelPath : Option Path := none
  pollIntervalSecs : Option Nat := none
  eventChannelCapacity : Option Nat := none

def ofGiven (g : Given) : Config where
  mountsPath := g.mountsPath.getD default.mountsPath
  sysfsPath := g.sysfsPath.getD default.sysfsPath
  diskByUuidPath := g.diskByUuidPath.getD default.diskByUuidPath
  diskByLabelPath := g.diskByLabelPath.getD default.diskByLabelPath
  pollIntervalSecs := g.pollIntervalSecs.getD default.pollIntervalSecs
  eventChannelCapacity := g.eventChannelCapacity.getD default.eventChannelCapacity

def member (g : Given) : String → Reader Given
  | "mountsPath" => do return { g with mountsPath := ← Json.once g.mountsPath Path.read }
  | "sysfsPath" => do return { g with sysfsPath := ← Json.once g.sysfsPath Path.read }
  | "diskByUuidPath" => do
    return { g with diskByUuidPath := ← Json.once g.diskByUuidPath Path.read }
  | "diskByLabelPath" => do
    return { g with diskByLabelPath := ← Json.once g.diskByLabelPath Path.read }
  | "pollIntervalSecs" => do
    return { g with pollIntervalSecs := ← Json.once g.pollIntervalSecs Json.natural }
  | "eventChannelCapacity" => do
    return { g with eventChannelCapacity := ← Json.once g.eventChannelCapacity Json.natural }
  | _ => do Json.unknown; return g

def read : Reader Config :=
  Json.record (σ := Given) {} member (fun g => some (ofGiven g)) do
    return ofGiven
      { mountsPath := ← Json.element? true Path.read
        sysfsPath := ← Json.element? false Path.read
        diskByUuidPath := ← Json.element? false Path.read
        diskByLabelPath := ← Json.element? false Path.read
        pollIntervalSecs := ← Json.element? false Json.natural
        eventChannelCapacity := ← Json.element? false Json.natural }

def toRecord? (c : Config) : Option Record := do
  return [("mountsPath", .text (← c.mountsPath.toString?)),
    ("sysfsPath", .text (← c.sysfsPath.toString?)),
    ("diskByUuidPath", .text (← c.diskByUuidPath.toString?)),
    ("diskByLabelPath", .text (← c.diskByLabelPath.toString?)),
    ("pollIntervalSecs", .number c.pollIntervalSecs),
    ("eventChannelCapacity", .number c.eventChannelCapacity)]

def toJson? (c : Config) : Option String :=
  c.toRecord?.map Json.compact

end Hotplug.Config
