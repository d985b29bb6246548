import Hotplug.CommandLine.Help
import Hotplug.Config.Yaml
import Hotplug.Event.Json
import Hotplug.Lookup
import Hotplug.Registry.Watcher
/-!
# What an invocation comes to

Every command but one ends with a text or an error. The one that watches goes on with a watcher and
a reader of the events that it announces.
-/

namespace Hotplug.CommandLine

inductive Outcome where
  | printed (text : String)
  | failed (e : Error)
  /-- The arguments make no sense. -/
  | misused
  | watching (w : Watcher) (reader : Cursor)

def Outcome.code : Outcome → Nat
  | .printed _ | .watching .. => 0
  | .failed _ => 1
  | .misused => 2

namespace Invocation

/-- The configuration: that of the file, or else the default, with what the settings put in its
place. It has to be sound before and after. -/
def configuration (i : Invocation) (t : FileTree) : Except Error Config := do
  let c ← match i.config with
    | some path => Config.load t path
    | none => pure .default
  let c := { c with
    mountsPath := i.mountsPath.getD c.mountsPath
    pollIntervalSecs := i.pollInterval.getD c.pollIntervalSecs }
  c.validate
  return c

/-- The paths that the request itself asks about, where what exists there counts. -/
def probes (i : Invocation) : List Path :=
  match i.request with
  | .attached ids =>
    ids.filterMap fun text =>
      match DeviceId.parse text with
      | .ok id => if id.kind = .fixed then some (.ofString id.uniqueId) else none
      | .error _ => none
  | _ => []

private def line (s : String) : Outcome := .printed (s ++ "\n")

private def attachedLine (t : FileTree) (r : MountRegistry) (id : DeviceId) : String :=
  id.text ++ "\t" ++ toString ((Lookup.checkId r id).answer t.pathExists) ++ "\n"

private def written {α : Type} (text : Option α) : Except Error α :=
  (text.map Except.ok).getD (.error .unwritable)

def answer (request : Request) (c : Config) (t : FileTree) (now : Instant) :
    Except Error Outcome := do
  match request with
  | .makeId kind uniqueId =>
    if uniqueId = "" then .error (.invalidArgument .emptyUniqueId)
    else return line (DeviceId.make kind uniqueId).text
  | .crack text =>
    let id ← DeviceId.parse text
    return line <| Json.pretty [("type", .text id.kind.name), ("uniqueId", .text id.uniqueId)]
  | .classify text =>
    let id ← DeviceId.parse text
    return line <| Json.pretty [("deviceId", .text id.text),
      ("massStorage", .flag id.isMassStorage), ("media", .flag id.isMedia),
      ("removable", .flag id.isRemovable)]
  | .attached texts =>
    let ids ← texts.mapM DeviceId.parse
    let r ← MountRegistry.open? c t now
    return .printed (String.join (ids.map (attachedLine t r)))
  | .info path =>
    let r ← MountRegistry.open? c t now
    match Lookup.ownerOf? r path with
    | none => .error (.invalidArgument (.notAbsolute path))
    | some owner => return line (Json.pretty (← written owner.toRecord?))
  | .find text =>
    let id ← DeviceId.parse text
    let r ← MountRegistry.open? c t now
    match Lookup.pathOfId? r id with
    | none => .error (.deviceNotFound id.text)
    | some path => return line path.toStringLossy
  | .list =>
    let r ← MountRegistry.open? c t now
    return line (Json.prettyList (← written (r.devices.mapM (·.toRecord?))))
  | .watch =>
    let r := MountRegistry.new c
    return .watching (← Watcher.new r) r.events.subscribe

def outcome (i : Invocation) (t : FileTree) (now : Instant) : Outcome :=
  match (do answer i.request (← i.configuration t) t now : Except Error Outcome) with
  | .ok o => o
  | .error e => .failed e

end Invocation

def outcome (env : Environment) (args : List String) (t : FileTree) (now : Instant) : Outcome :=
  match Invocation.read env args with
  | .ok i => i.outcome t now
  | .error .misuse => .misused
  | .error (.help topic) => .printed (helpText env topic)
  | .error .version => .printed versionText

/-- The lines for the events that a watcher's reader finds, and the reader afterwards. Events that
were lost to it leave no line. -/
def eventLines (w : Watcher) (reader : Cursor) : Except Error (List String) × Cursor :=
  let (received, reader) := w.registry.events.drain reader
  let events := received.filterMap fun r =>
    match r with
    | .message e => some e
    | _ => none
  (Invocation.written (events.mapM (·.toJson?)), reader)

end Hotplug.CommandLine
