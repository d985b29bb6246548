import Hotplug.Proofs.Registry.Lookup
import Hotplug.Proofs.Text.Scan
/-!
# Readings that are never broken off

A reading of the mount table goes through bytes by counting, takes the ids of its records apart and
makes new ones. Each of these breaks the program off when it is asked for what it cannot give:
`tryRefresh` is a reading that says so where it happens. It never does, whatever the table, the
links and the attributes of disks say (`tryRefresh_eq`).
-/

namespace Hotplug

inductive Crash where
  | misstep (m : Escape.Misstep)
  | breach (b : Breach)
deriving DecidableEq, Repr

namespace Mount

def tryLine (line : List Char) : Except Crash (Option Mount) :=
  match words line with
  | device :: point :: fsType :: _ =>
    if deviceRoot.isPrefixOf device then do
      let device ← (Escape.scanOctal device).mapError .misstep
      let point ← (Escape.scanOctal point).mapError .misstep
      return some ⟨⟨Utf8.encode device⟩, ⟨Utf8.encode point⟩, String.ofList fsType⟩
    else return none
  | _ => return none

def tryParse (table : String) : Except Crash (List Mount) :=
  return (← (lines table.toList).mapM tryLine).filterMap id

theorem tryLine_eq (line : List Char) : tryLine line = pure (ofLine? line) := by
  unfold tryLine ofLine?
  match words line with
  | [] | [_] | [_, _] => rfl
  | device :: point :: fsType :: _ =>
    dsimp only
    rw [Escape.scanOctal_eq, Escape.scanOctal_eq]
    split <;> rfl

theorem tryParse_eq (table : String) : tryParse table = pure (parse table) := by
  rw [tryParse, funext tryLine_eq, List.mapM_pure, pure_bind, List.filterMap_map]
  rfl

end Mount

namespace BlockDevice

def tryLink (t : FileTree) (dir : Path) (name : Name) : Except Crash (Option (String × String)) :=
  match (t.readLink? (dir.join ⟨name⟩)).bind fun target => target.fileName?.bind Utf8.toString? with
  | some block => do
    let link ← (Escape.scanHex (Utf8.decodeLossy name)).mapError .misstep
    return some (block, String.ofList link)
  | none => return none

def tryLinks (t : FileTree) (dir : Path) : Except Crash (List (String × String)) :=
  return (← (t.list dir).mapM (tryLink t dir)).filterMap id

theorem tryLink_eq (t : FileTree) (dir : Path) (name : Name) :
    tryLink t dir name = pure (link? t dir name) := by
  rw [tryLink, link?, Escape.scanHex_eq]
  cases t.readLink? (dir.join ⟨name⟩) with
  | none => rfl
  | some target =>
    change (match target.fileName?.bind Utf8.toString? with
      | some block => _
      | none => _) = pure ((target.fileName?.bind Utf8.toString?).bind _)
    cases target.fileName?.bind Utf8.toString? <;> rfl

theorem tryLinks_eq (t : FileTree) (dir : Path) : tryLinks t dir = pure (links t dir) := by
  rw [tryLinks, funext (tryLink_eq t dir), List.mapM_pure, pure_bind, List.filterMap_map]
  rfl

end BlockDevice

namespace MountRegistry

def tryNewRecord (config : Config) (t : FileTree) (now : Instant) (labels : List (String × String))
    (uniqueId : String) (s : Sighting) : Except Crash AttachedDevice := do
  let kind := if BlockDevice.hasDcim t s.point then .withDcim else .withoutDcim
  let id ← (DeviceId.makeChecked kind uniqueId).mapError .breach
  let name :=
    match labels.reverse.lookup s.block with
    | some label => label
    | none => (BlockDevice.model? t config.sysfsPath s.block).getD s.block
  return ⟨id, name, s.point, now⟩

def tryRecord (config : Config) (t : FileTree) (now : Instant)
    (uuids labels : List (String × String)) (previous : List AttachedDevice) (s : Sighting) :
    Except Crash AttachedDevice := do
  let uniqueId :=
    match uuids.reverse.lookup s.block with
    | some uuid => "UUID:" ++ uuid
    | none => "DEV:" ++ s.block
  match recordAt? previous s.point with
  | some d =>
    let parts ← (DeviceId.crack d.id.text).mapError .breach
    if parts.2 = uniqueId then return d
    else tryNewRecord config t now labels uniqueId s
  | none => tryNewRecord config t now labels uniqueId s

def tryRefresh (r : MountRegistry) (t : FileTree) (now : Instant) :
    Except Crash (Except Error (List Event × MountRegistry)) :=
  match t.readText r.config.mountsPath with
  | .error e => return .error (.file e)
  | .ok table => do
    let mounts ← Mount.tryParse table
    let uuids ← BlockDevice.tryLinks t r.config.diskByUuidPath
    let labels ← BlockDevice.tryLinks t r.config.diskByLabelPath
    let records ← (sightings r.config t mounts).mapM
      (tryRecord r.config t now uuids labels r.devices)
    let devices := byLocation records
    let events := difference r.devices devices
    return .ok (events,
      { r with
        points := mounts.map (·.point)
        devices := devices
        events := r.events.sendAll events })

theorem uniqueIdOf_ne_empty (config : Config) (t : FileTree) (block : String) :
    uniqueIdOf config t block ≠ "" := by
  rcases uniqueIdOf_cases config t block with ⟨uuid, -, hid⟩ | hid
  · simp [hid]
  · simp [hid]

section Record

variable (config : Config) (t : FileTree) (now : Instant) (previous : List AttachedDevice)
  (s : Sighting)

theorem tryNewRecord_eq :
    tryNewRecord config t now (BlockDevice.links t config.diskByLabelPath)
      (uniqueIdOf config t s.block) s = pure (newRecord config t now s) := by
  rw [tryNewRecord, DeviceId.makeChecked, if_neg (uniqueIdOf_ne_empty config t s.block)]
  rfl

theorem tryRecord_eq :
    tryRecord config t now (BlockDevice.links t config.diskByUuidPath)
      (BlockDevice.links t config.diskByLabelPath) previous s =
        pure (recordOf config t now previous s) := by
  have hcrack (d : AttachedDevice) : DeviceId.crack d.id.text = .ok d.id.split := by
    rw [DeviceId.crack, DeviceId.trusted_text]
    rfl
  unfold tryRecord recordOf
  cases recordAt? previous s.point with
  | none => exact tryNewRecord_eq config t now s
  | some d =>
    simp only [hcrack]
    change (if d.id.uniqueId = uniqueIdOf config t s.block then pure d
      else tryNewRecord config t now _ (uniqueIdOf config t s.block) s) = _
    rw [tryNewRecord_eq]
    by_cases hid : d.id.uniqueId = uniqueIdOf config t s.block
    · simp only [if_pos hid]
    · simp only [if_neg hid]

end Record

theorem tryRefresh_eq (r : MountRegistry) (t : FileTree) (now : Instant) :
    r.tryRefresh t now = .ok (r.refresh t now) := by
  unfold tryRefresh refresh
  cases t.readText r.config.mountsPath with
  | error e => rfl
  | ok table =>
    have hrecords := funext (tryRecord_eq r.config t now r.devices)
    simp only [Mount.tryParse_eq, BlockDevice.tryLinks_eq, pure_bind, hrecords, List.mapM_pure]
    rfl

end MountRegistry

end Hotplug
