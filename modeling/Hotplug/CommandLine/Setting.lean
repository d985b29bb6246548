import Hotplug.Device.Kind
import Hotplug.Text.Number
/-!
# Settings of the command line

The options, the environment variables that stand in for them, and which values they accept.
-/

namespace Hotplug.CommandLine

inductive Setting where
  | config
  | mountsPath
  | pollInterval
  | logLevel
  | logJson
  /-- The kind of a device, for the command that builds ids. -/
  | kind
deriving DecidableEq, Repr

abbrev Environment := List (String × String)

namespace Setting

def shared : List Setting := [.config, .mountsPath, .pollInterval, .logLevel, .logJson]

def name : Setting → String
  | .config => "config"
  | .mountsPath => "mounts-path"
  | .pollInterval => "poll-interval-secs"
  | .logLevel => "log-level"
  | .logJson => "log-json"
  | .kind => "type"

def envName? : Setting → Option String
  | .config => some "MEDIA_STORAGE_CONFIG"
  | .mountsPath => some "MOUNTS_PATH"
  | .pollInterval => some "POLL_INTERVAL_SECS"
  | .logLevel => some "LOG_LEVEL"
  | .logJson => some "LOG_JSON"
  | .kind => none

/-- What the value is called; a setting that is only switched on has none. -/
def placeholder? : Setting → Option String
  | .config => some "CONFIG"
  | .mountsPath => some "MOUNTS_PATH"
  | .pollInterval => some "POLL_INTERVAL_SECS"
  | .logLevel => some "LOG_LEVEL"
  | .logJson => none
  | .kind => some "DEVICE_TYPE"

def switchedOn : String := "true"

def kind? (s : String) : Option DeviceKind :=
  DeviceKind.all.find? (·.tag = s)

def seconds? (s : String) : Option Nat :=
  (unsigned? s.toList).filter (· ≤ maxWord)

/-- The value may be given. Paths may not be empty. -/
def accepts : Setting → String → Bool
  | .config, v | .mountsPath, v => v ≠ ""
  | .pollInterval, v => (seconds? v).isSome
  | .logLevel, _ => true
  | .logJson, v => v = switchedOn || v = "false"
  | .kind, v => (kind? v).isSome

def fromEnvironment? (env : Environment) (s : Setting) : Option String :=
  s.envName?.bind fun v => env.lookup v

end Setting

end Hotplug.CommandLine
