import Hotplug.Device.Json
import Hotplug.Event
/-!
# Events in JSON

An event is an object whose field `event` says what happened, or an array that starts with that.
The other fields may stand before it, so they are gathered first and looked at when all has been
read.
-/

namespace Hotplug.Event

open Json (Reader Record)

inductive Change where
  | attached
  | detached
deriving DecidableEq, Repr

namespace Change

def name : Change → String
  | attached => "device_attached"
  | detached => "device_detached"

def ofName? (s : String) : Option Change :=
  [attached, detached].find? (·.name = s)

end Change

inductive Value where
  | text (s : String)
  | other
deriving DecidableEq, Repr

def maxDepth : Nat := 126

def value : Reader Value := do
  match (← Json.look) with
  | some '"' => return .text (← Json.string)
  | _ => Json.skip .strict maxDepth; return .other

def text? : Value → Option String
  | .text s => some s
  | .other => none

def id? (v : Value) : Option DeviceId :=
  (text? v).bind fun s => (DeviceId.ofOwned s).toOption

def ofValues? : Change → List Value → Option Event
  | .attached, [i, n, l] => do return .attached (← id? i) (← text? n) (.ofString (← text? l))
  | .detached, [i, l] => do return .detached (← id? i) (.ofString (← text? l))
  | _, _ => none

def field? (fields : List (String × Value)) (key : String) : Option Value :=
  match fields.filter (·.1 = key) with
  | [f] => some f.2
  | _ => none

def ofFields? (change : Change) (fields : List (String × Value)) : Option Event := do
  let id ← field? fields "device_id"
  let location ← field? fields "location"
  match change with
  | .attached => ofValues? change [id, ← field? fields "name", location]
  | .detached => ofValues? change [id, location]

structure Partial where
  change : Option Change
  fields : List (String × Value)

def member (e : Partial) (key : String) : Reader Partial := do
  if key = "event" then
    return { e with change := ← Json.once e.change (Json.stringAs Change.ofName?) }
  else
    Json.colon
    return { e with fields := e.fields ++ [(key, ← value)] }

def values : Nat → Reader (List Value)
  | 0 => Json.fail .malformed
  | fuel + 1 => do
    match (← Json.element? false value) with
    | some v => return v :: (← values fuel)
    | none => return []

def read : Reader Event := do
  let event? ← Json.record (σ := Partial) (α := Option Event) ⟨none, []⟩ member
    (fun e => e.change.map (ofFields? · e.fields))
    (do
      let change ← Json.element true (Json.stringAs Change.ofName?)
      return ofValues? change (← values ((← get).length + 1)))
  match event? with
  | some e => return e
  | none => Json.fail .mismatch

def toRecord? : Event → Option Record
  | .attached i n l => do
    return [("event", .text Change.attached.name), ("device_id", .text i.text), ("name", .text n),
      ("location", .text (← l.toString?))]
  | .detached i l => do
    return [("event", .text Change.detached.name), ("device_id", .text i.text),
      ("location", .text (← l.toString?))]

def toJson? (e : Event) : Option String :=
  e.toRecord?.map Json.compact

end Hotplug.Event
