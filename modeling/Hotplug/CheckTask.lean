import Hotplug.Lookup
/-!
# Checks that call back

A task of its own can check whether a device is attached and call back with the answer. It looks at
the registry when its turn comes. The file system replies to a probe later, so the task of a fixed
device then waits once more. It is woken for other reasons too, and goes on waiting.
-/

namespace Hotplug

/-- A task that checks whether a device is attached, between the times when it is woken. -/
inductive CheckTask where
  | waiting (id : DeviceId)
  | probing (path : Path)
  | done
deriving DecidableEq, Repr

namespace CheckTask

inductive Wake (σ : Type) where
  /-- It is its turn, with a registry as it is now. -/
  | turn (s : σ)
  /-- Whether there is something at the path that has been probed. -/
  | reply (found : Bool)
deriving DecidableEq, Repr

inductive Act where
  | probed (path : Path)
  | called (attached : Bool)
deriving DecidableEq, Repr

def Act.probed? : Act → Option Path
  | probed p => some p
  | called _ => none

def Act.called? : Act → Option Bool
  | probed _ => none
  | called b => some b

/-- The task for a text that is trusted to be an id, which is seen before there is a task. -/
def start (text : String) : Except Breach CheckTask :=
  (DeviceId.trusted text).map waiting

variable {σ : Type} [Registry σ]

def wake : CheckTask → Wake σ → CheckTask × List Act
  | waiting id, .turn s =>
    match Lookup.checkId s id with
    | .known b => (done, [.called b])
    | .probe p => (probing p, [.probed p])
  | probing _, .reply b => (done, [.called b])
  | t, _ => (t, [])

def run : CheckTask → List (Wake σ) → CheckTask × List Act
  | t, [] => (t, [])
  | t, w :: ws =>
    let (t, acts) := t.wake w
    let (t, more) := t.run ws
    (t, acts ++ more)

end CheckTask

end Hotplug
