import Hotplug.Device.Record
import Hotplug.Json.Read
import Hotplug.Json.Write
import Hotplug.Time.Timestamp
/-!
# Devices in JSON

Ids and kinds are strings; a kind may also be an object whose one key is its name and whose value is
`null`. A record can be written only if its path is UTF-8.
-/

namespace Hotplug

open Json (Reader Record)

namespace DeviceId

def read : Reader DeviceId :=
  Json.stringAs fun s => (ofOwned s).toOption

def toJson (id : DeviceId) : String :=
  String.ofList (Json.quote id.text)

end DeviceId

namespace DeviceKind

/-- A kind, from its name or an object of it. -/
def read : Reader DeviceKind := do
  match (← Json.look) with
  | none => Json.fail .truncated
  | some '"' => Json.stringAs ofName?
  | some '\x7b' =>
    Json.advance
    let kind ← key
    Json.colon
    null
    match (← Json.look) with
    | some '\x7d' => Json.advance
    | some _ => Json.fail .malformed
    | none => Json.fail .truncated
    return kind
  | some _ => Json.fail .malformed
where
  key : Reader DeviceKind := do
    match (← Json.look) with
    | none => Json.fail .truncated
    | some '"' => Json.stringAs ofName?
    | some _ => Json.fail .malformed
  null : Reader Unit := do
    match (← Json.look) with
    | none => Json.fail .truncated
    | some 'n' => Json.skip .strict 0
    | some _ => Json.wrongKind

def toJson (k : DeviceKind) : String :=
  String.ofList (Json.quote k.name)

end DeviceKind

namespace Path

def read : Reader Path := do
  return ofString (← Json.string)

end Path

namespace Instant

def read : Reader Instant :=
  Json.stringAs Timestamp.parse?

end Instant

namespace AttachedDevice

structure Partial where
  id : Option DeviceId
  name : Option String
  location : Option Path
  attachedAt : Option Instant

def member (d : Partial) : String → Reader Partial
  | "deviceId" => do return { d with id := ← Json.once d.id DeviceId.read }
  | "name" => do return { d with name := ← Json.once d.name Json.string }
  | "location" => do return { d with location := ← Json.once d.location Path.read }
  | "attachedAt" => do return { d with attachedAt := ← Json.once d.attachedAt Instant.read }
  | _ => do Json.unknown; return d

def finish (d : Partial) : Option AttachedDevice := do
  return ⟨← d.id, ← d.name, ← d.location, ← d.attachedAt⟩

def read : Reader AttachedDevice :=
  Json.record ⟨none, none, none, none⟩ member finish do
    return ⟨← Json.element true DeviceId.read, ← Json.element false Json.string,
      ← Json.element false Path.read, ← Json.element false Instant.read⟩

def toRecord? (d : AttachedDevice) : Option Record := do
  return [("deviceId", .text d.id.text), ("name", .text d.name),
    ("location", .text (← d.location.toString?)),
    ("attachedAt", .text (Timestamp.render d.attachedAt))]

end AttachedDevice

namespace PathOwner

structure Partial where
  id : Option DeviceId
  name : Option String
  relativePath : Option Path

def member (d : Partial) : String → Reader Partial
  | "deviceId" => do return { d with id := ← Json.once d.id DeviceId.read }
  | "name" => do return { d with name := ← Json.once d.name Json.string }
  | "relativePath" => do return { d with relativePath := ← Json.once d.relativePath Path.read }
  | _ => do Json.unknown; return d

def finish (d : Partial) : Option PathOwner := do
  return ⟨← d.id, ← d.name, ← d.relativePath⟩

def read : Reader PathOwner :=
  Json.record ⟨none, none, none⟩ member finish do
    return ⟨← Json.element true DeviceId.read, ← Json.element false Json.string,
      ← Json.element false Path.read⟩

def toRecord? (o : PathOwner) : Option Record := do
  return [("deviceId", .text o.id.text), ("name", .text o.name),
    ("relativePath", .text (← o.relativePath.toString?))]

end PathOwner

end Hotplug
