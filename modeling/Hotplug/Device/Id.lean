import Hotplug.Device.Kind
import Hotplug.Error
/-!
# Device ids

An id is one text, the lead of a device kind followed by an id that is unique within the kind.
`split?` takes it apart at its first colon. A `DeviceId` is a text that can be taken apart, so its
kind and its unique id are total functions.
-/

namespace Hotplug

namespace DeviceId

/-- The text up to and including its first colon, and the rest. -/
def cut? (s : String) : Option (String × String) :=
  let tag := s.toList.takeWhile (· ≠ ':')
  match s.toList.dropWhile (· ≠ ':') with
  | [] => none
  | colon :: rest => some (String.ofList (tag ++ [colon]), String.ofList rest)

def split? (s : String) : Option (DeviceKind × String) :=
  (cut? s).bind fun p => (DeviceKind.ofLead? p.1).map (·, p.2)

end DeviceId

/-- A text that names a kind of device and an id within the kind. -/
structure DeviceId where
  text : String
  wellFormed : (DeviceId.split? text).isSome = true
deriving DecidableEq, Repr

namespace DeviceId

def parse (s : String) : Except Error DeviceId :=
  if h : (split? s).isSome = true then .ok ⟨s, h⟩ else .error (.malformedDeviceId s)

/-- `parse`, by the name under which texts become values of other types too. -/
def ofText (s : String) : Except Error DeviceId :=
  parse s

/-- The id that a text becomes, the text being given up for it. It is looked at here once more. -/
def ofOwned (s : String) : Except Error DeviceId :=
  match h : split? s with
  | some _ => .ok ⟨s, by rw [h, Option.isSome_some]⟩
  | none => .error (.malformedDeviceId s)

def split (id : DeviceId) : DeviceKind × String :=
  (split? id.text).get id.wellFormed

def kind (id : DeviceId) : DeviceKind :=
  id.split.1

def uniqueId (id : DeviceId) : String :=
  id.split.2

def makeText (k : DeviceKind) (uniqueId : String) : String :=
  k.lead ++ uniqueId

theorem cut?_makeText (k : DeviceKind) (u : String) :
    cut? (makeText k u) = some (k.lead, u) := by
  cases k <;>
    simp [cut?, makeText, DeviceKind.lead, DeviceKind.tag, String.toList_append,
      List.takeWhile, List.dropWhile]

theorem ofLead?_lead (k : DeviceKind) : DeviceKind.ofLead? k.lead = some k := by
  cases k <;> decide

theorem split?_makeText (k : DeviceKind) (u : String) :
    split? (makeText k u) = some (k, u) := by
  simp [split?, cut?_makeText, ofLead?_lead]

def make (k : DeviceKind) (uniqueId : String) : DeviceId :=
  ⟨makeText k uniqueId, by simp [split?_makeText]⟩

@[simp] theorem text_make (k : DeviceKind) (u : String) : (make k u).text = k.lead ++ u := rfl

@[simp] theorem kind_make (k : DeviceKind) (u : String) : (make k u).kind = k := by
  simp [kind, split, make, split?_makeText]

@[simp] theorem uniqueId_make (k : DeviceKind) (u : String) : (make k u).uniqueId = u := by
  simp [uniqueId, split, make, split?_makeText]

def isMedia (id : DeviceId) : Bool := id.kind.isMedia

def isRemovable (id : DeviceId) : Bool := id.kind.isRemovable

def isMassStorage (id : DeviceId) : Bool := id.kind.isMassStorage

def sortUnique (ids : List DeviceId) : List DeviceId :=
  (ids.mergeSort (·.text ≤ ·.text)).eraseReps

end DeviceId

/-- A request that breaks a promise of its caller. -/
inductive Breach where
  /-- An id from within that cannot be taken apart. -/
  | malformedDeviceId (id : String)
  /-- An id was to be made of an empty unique id. -/
  | emptyUniqueId (kind : DeviceKind)
deriving DecidableEq, Repr

namespace Breach

def message : Breach → String
  | .malformedDeviceId id => "malformed device id: " ++ Quoted.quote id
  | .emptyUniqueId kind => "device unique id must not be empty (" ++ kind.tag ++ " device)"

end Breach

namespace DeviceId

def trusted (s : String) : Except Breach DeviceId :=
  if h : (split? s).isSome = true then .ok ⟨s, h⟩ else .error (.malformedDeviceId s)

theorem trusted_text (id : DeviceId) : trusted id.text = .ok id := by
  rw [trusted, dif_pos id.wellFormed]

def crack (s : String) : Except Breach (DeviceKind × String) :=
  (trusted s).map split

def makeChecked (k : DeviceKind) (uniqueId : String) : Except Breach DeviceId :=
  if uniqueId = "" then .error (.emptyUniqueId k) else .ok (make k uniqueId)

end DeviceId

end Hotplug
