import Hotplug.CommandLine.Setting
/-!
# Commands

The commands of the command line, with the operands and settings that each takes.
-/

namespace Hotplug.CommandLine

inductive Command where
  | makeId
  | crack
  | classify
  | attached
  | info
  | find
  | list
  | watch
deriving DecidableEq, Repr

namespace Command

def all : List Command := [.makeId, .crack, .classify, .attached, .info, .find, .list, .watch]

def name : Command → String
  | .makeId => "make-id"
  | .crack => "crack"
  | .classify => "classify"
  | .attached => "attached"
  | .info => "info"
  | .find => "find"
  | .list => "list"
  | .watch => "watch"

def ofName? (s : String) : Option Command :=
  all.find? (·.name = s)

def summary : Command → String
  | .makeId => "Build a device id from a type and unique id"
  | .crack => "Split a device id into type and unique id"
  | .classify => "Report media/removable/mass-storage flags for a device id"
  | .attached => "Check whether devices are attached"
  | .info => "Resolve an absolute path to the device that holds it"
  | .find => "Print the current location of a device"
  | .list => "List attached removable devices"
  | .watch => "Print attach/detach events until interrupted"

def operand? : Command → Option String
  | .makeId => some "UNIQUE_ID"
  | .crack | .classify | .find => some "DEVICE_ID"
  | .attached => some "DEVICE_IDS"
  | .info => some "PATH"
  | .list | .watch => none

def takesMany : Command → Bool
  | .attached => true
  | _ => false

/-- The operand may be given. A path may not be empty. -/
def accepts : Command → String → Bool
  | .info, v => v ≠ ""
  | _, _ => true

def settings : Command → List Setting
  | .makeId => [.config, .kind, .mountsPath, .pollInterval, .logLevel, .logJson]
  | _ => Setting.shared

end Command

end Hotplug.CommandLine
