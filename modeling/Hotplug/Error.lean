import Hotplug.FileTree.Basic
import Hotplug.Text.Quoted
/-!
# Errors

Everything that can go wrong, by cause, and the two wordings of it: `message` for people and
`debug` for logs. Only failures to read a file are transient.
-/

namespace Hotplug

namespace FileError

def message : FileError → String
  | .notFound => "No such file or directory (os error 2)"
  | .notADirectory => "Not a directory (os error 20)"
  | .isADirectory => "Is a directory (os error 21)"
  | .nameTooLong => "File name too long (os error 36)"
  | .tooManyLinks => "Too many levels of symbolic links (os error 40)"
  | .nulInPath => "file name contained an unexpected NUL byte"
  | .notText => "stream did not contain valid UTF-8"
  | .other text => text

private def debugOs (code kind text : String) : String :=
  "Os \x7b code: " ++ code ++ ", kind: " ++ kind ++ ", message: " ++ Quoted.quote text ++ " \x7d"

private def debugPlain (kind text : String) : String :=
  "Error \x7b kind: " ++ kind ++ ", message: " ++ Quoted.quote text ++ " \x7d"

def debug : FileError → String
  | .notFound => debugOs "2" "NotFound" "No such file or directory"
  | .notADirectory => debugOs "20" "NotADirectory" "Not a directory"
  | .isADirectory => debugOs "21" "IsADirectory" "Is a directory"
  | .nameTooLong => debugOs "36" "InvalidFilename" "File name too long"
  | .tooManyLinks => debugOs "40" "FilesystemLoop" "Too many levels of symbolic links"
  | .nulInPath => debugPlain "InvalidInput" "file name contained an unexpected NUL byte"
  | .notText => debugPlain "InvalidData" "stream did not contain valid UTF-8"
  | .other text => "Custom \x7b kind: Other, error: " ++ Quoted.quote text ++ " \x7d"

end FileError

inductive ConfigFault where
  | zeroPollInterval
  | zeroEventCapacity
  | zeroWatchInterval
  | unreadable (path : Path) (cause : FileError)
  | other (text : String)
deriving DecidableEq, Repr

inductive ArgumentFault where
  | emptyUniqueId
  | notAbsolute (path : Path)
  | other (text : String)
deriving DecidableEq, Repr

inductive Error where
  | internal (text : String)
  | configuration (fault : ConfigFault)
  /-- The configuration file is not YAML of the expected shape. -/
  | configText
  | malformedDeviceId (id : String)
  | invalidArgument (fault : ArgumentFault)
  | deviceNotFound (id : String)
  | deviceAlreadyAttached (id : String)
  | file (cause : FileError)
  /-- A record that JSON text cannot hold, such as a path that is not UTF-8. -/
  | unwritable
deriving DecidableEq, Repr

def ConfigFault.message : ConfigFault → String
  | .zeroPollInterval => "pollIntervalSecs must be greater than zero"
  | .zeroEventCapacity => "eventChannelCapacity must be greater than zero"
  | .zeroWatchInterval => "mount watcher interval must be greater than zero"
  | .unreadable path cause => "Cannot read config " ++ path.toStringLossy ++ ": " ++ cause.message
  | .other text => text

def ArgumentFault.message : ArgumentFault → String
  | .emptyUniqueId => "unique id must not be empty"
  | .notAbsolute path => path.toStringLossy ++ " is not an absolute path"
  | .other text => text

namespace Error

def message : Error → String
  | .internal text => "Internal error: " ++ text
  | .configuration fault => "Configuration error: " ++ fault.message
  | .configText => "Config parse error"
  | .malformedDeviceId id => "Malformed device id: " ++ id
  | .invalidArgument fault => "Invalid argument: " ++ fault.message
  | .deviceNotFound id => "Device not found: " ++ id
  | .deviceAlreadyAttached id => "Device already attached: " ++ id
  | .file cause => "IO error: " ++ cause.message
  | .unwritable => "JSON parse error: path contains invalid UTF-8 characters"

private def debugTuple (name field : String) : String :=
  name ++ "(" ++ field ++ ")"

private def debugId (name id : String) : String :=
  name ++ " \x7b device_id: " ++ Quoted.quote id ++ " \x7d"

def debug : Error → String
  | .internal text => debugTuple "Internal" (Quoted.quote text)
  | .configuration fault => debugTuple "Configuration" (Quoted.quote fault.message)
  | .configText => "ConfigParse"
  | .malformedDeviceId id => debugId "MalformedDeviceId" id
  | .invalidArgument fault => debugTuple "InvalidArgument" (Quoted.quote fault.message)
  | .deviceNotFound id => debugId "DeviceNotFound" id
  | .deviceAlreadyAttached id => debugId "DeviceAlreadyAttached" id
  | .file cause => debugTuple "Io" cause.debug
  | .unwritable =>
    debugTuple "JsonParse"
      (debugTuple "Error" "\"path contains invalid UTF-8 characters\", line: 0, column: 0")

/-- Reading again may help. -/
def isTransient : Error → Bool
  | .file _ => true
  | _ => false

end Error

end Hotplug
