import Hotplug.Proofs.FileTree.Write
import Hotplug.Proofs.MountTable.Lines
import Hotplug.Proofs.Registry.Records
import Hotplug.Registry.Survey
import Mathlib.Data.List.Basic
/-!
# Foreign lines in the mount table

Most lines of a mount table are of no concern to the registry. A reading depends on the table only
through the mounts of devices in it (`refresh_write`), so a foreign line in the table changes
nothing, as long as it is text. A line that is not text makes the whole table unreadable.
-/

namespace Hotplug

section Write

variable {t : FileTree} {place : Place} {old : List UInt8}
  (h : t.entry? place = some (.file old)) (contents : List UInt8)

include h

theorem Mount.blockName?_write (m : Mount) :
    m.blockName? (t.write place contents) = m.blockName? t := by
  rw [blockName?, FileTree.canonical?_write h, blockName?]

namespace BlockDevice

theorem readTrimmed?_write {p : Path} (hp : t.locate p ≠ .ok place) :
    readTrimmed? (t.write place contents) p = readTrimmed? t p := by
  rw [readTrimmed?, FileTree.readText_write_of_ne h _ hp, readTrimmed?]

theorem attribute?_write {sysfs : Path} {block key : String}
    (hown : t.locate ((node sysfs block).joinText key) ≠ .ok place)
    (hdisk : t.locate (((node sysfs block).joinText "..").joinText key) ≠ .ok place) :
    attribute? (t.write place contents) sysfs block key = attribute? t sysfs block key := by
  rw [attribute?, readTrimmed?_write h _ hown, readTrimmed?_write h _ hdisk,
    FileTree.pathExists_write h, attribute?]

theorem linkName?_write (dir : Path) (block : String) :
    linkName? (t.write place contents) dir block = linkName? t dir block := by
  have hlink : link? (t.write place contents) dir = link? t dir := by
    funext name
    rw [link?, FileTree.readLink?_write h, link?]
  rw [linkName?, links, FileTree.list_write h, hlink, linkName?, links]

theorem hasDcim_write (point : Path) :
    hasDcim (t.write place contents) point = hasDcim t point := by
  simp only [hasDcim, dcimPaths, List.any_cons, List.any_nil, FileTree.isDir_write h]

end BlockDevice

end Write

namespace MountRegistry

section Write

variable {config : Config} {t : FileTree} {place : Place} {old : List UInt8}

def attributeFiles (config : Config) (t : FileTree) : List Path :=
  (Demand.ofDisks config t).filterMap fun
    | .contents p => some p
    | _ => none

/-- No file that says what a disk is lies at the place. -/
def Apart (config : Config) (t : FileTree) (place : Place) : Prop :=
  ∀ p ∈ attributeFiles config t, t.locate p ≠ .ok place

instance (config : Config) (t : FileTree) (place : Place) : Decidable (Apart config t place) := by
  unfold Apart
  infer_instance

section Text

variable {text : String} (h : t.entry? place = some (.file old)) (contents : List UInt8)
  (hapart : Apart config t place) (htext : t.readText config.mountsPath = .ok text)

include h hapart htext

theorem attribute?_write {m : Mount} {block key : String} (hm : m ∈ Mount.parse text)
    (hblock : m.blockName? t = some block) (hkey : key = "removable" ∨ key = "device/model") :
    BlockDevice.attribute? (t.write place contents) config.sysfsPath block key =
      BlockDevice.attribute? t config.sysfsPath block key := by
  obtain ⟨hown, hdisk⟩ := Demand.contents_mem_ofDisks htext hm hblock hkey
  exact BlockDevice.attribute?_write h contents
    (hapart _ (List.mem_filterMap.2 ⟨_, hown, rfl⟩))
    (hapart _ (List.mem_filterMap.2 ⟨_, hdisk, rfl⟩))

theorem sightings_write :
    sightings config (t.write place contents) (Mount.parse text) =
      sightings config t (Mount.parse text) := by
  rw [sightings_eq, sightings_eq]
  refine List.filterMap_congr fun m hm => ?_
  rw [removableBlock?, removableBlock?, Mount.blockName?_write h]
  cases hblock : m.blockName? t with
  | none => rw [Option.filter_none, Option.filter_none]
  | some block =>
    have hremovable : BlockDevice.isRemovable (t.write place contents) config.sysfsPath block =
        BlockDevice.isRemovable t config.sysfsPath block := by
      rw [BlockDevice.isRemovable, attribute?_write h contents hapart htext hm hblock (.inl rfl),
        BlockDevice.isRemovable]
    rw [Option.filter_some, hremovable, Option.filter_some]

theorem recordOf_write {s : Sighting} (hs : s ∈ sightings config t (Mount.parse text))
    (now : Instant) (previous : List AttachedDevice) :
    recordOf config (t.write place contents) now previous s =
      recordOf config t now previous s := by
  obtain ⟨m, hm, -, hblock⟩ := exists_mount_of_mem_sightings hs
  have hid : uniqueIdOf config (t.write place contents) s.block =
      uniqueIdOf config t s.block := by
    rw [uniqueIdOf, BlockDevice.linkName?_write h, uniqueIdOf]
  have hname : nameOf config (t.write place contents) s.block = nameOf config t s.block := by
    rw [nameOf, BlockDevice.linkName?_write h, BlockDevice.model?,
      attribute?_write h contents hapart htext hm hblock (.inr rfl), nameOf, BlockDevice.model?]
  have hrecord : newRecord config (t.write place contents) now s = newRecord config t now s := by
    rw [newRecord, BlockDevice.hasDcim_write h, hid, hname, newRecord]
  rw [recordOf, hid, hrecord, recordOf]

end Text

theorem refresh_eq_notText_iff {r : MountRegistry} {bytes : List UInt8}
    (hplace : t.locate r.config.mountsPath = .ok place)
    (htable : t.entry? place = some (.file bytes)) (now : Instant) :
    r.refresh t now = .error (.file .notText) ↔ Mount.ofBytes? bytes = none := by
  rw [refresh_eq_error_iff, FileTree.readText_of_file hplace htable, Mount.ofBytes?_eq_none_iff]
  cases Utf8.toString? bytes <;> simp

theorem refresh_write {r : MountRegistry} (h : t.entry? place = some (.file old))
    {contents : List UInt8} (hplace : t.locate r.config.mountsPath = .ok place)
    (hapart : Apart r.config t place) (hsame : Mount.ofBytes? contents = Mount.ofBytes? old)
    (now : Instant) : r.refresh (t.write place contents) now = r.refresh t now := by
  cases htext : Utf8.toString? old with
  | none =>
    have hold := Mount.ofBytes?_eq_none_iff.2 htext
    have hplace' := (FileTree.locate_write h contents _).trans hplace
    rw [(refresh_eq_notText_iff hplace h now).2 hold,
      (refresh_eq_notText_iff hplace' (FileTree.entry?_write_self h contents) now).2
        (hsame.trans hold)]
  | some text =>
    have hold := FileTree.readText_of_file hplace h
    have hnew := FileTree.readText_write h contents hplace
    rw [Mount.ofBytes?, Mount.ofBytes?, htext, Option.map_some] at hsame
    obtain ⟨text', htext', hparse⟩ := Option.map_eq_some_iff.1 hsame
    rw [htext] at hold
    rw [htext'] at hnew
    have hrecords : ((sightings r.config t (Mount.parse text)).map
          (recordOf r.config (t.write place contents) now r.devices)) =
        (sightings r.config t (Mount.parse text)).map (recordOf r.config t now r.devices) :=
      List.map_congr_left fun s hs => recordOf_write h contents hapart hold hs now r.devices
    simp only [refresh, hnew, hold, Option.map_some, Option.getD_some, hparse,
      sightings_write h contents hapart hold, hrecords]

end Write

/-- A foreign line added to the table changes nothing if it is text, or if the table was none
before. If the line is not text, the reading fails and the registry is left as it was. -/
theorem foreign_line_harmless_iff (config : Config) (xs : List Reading) (now : Instant)
    {t : FileTree} {place : Place} {before behind : List (List UInt8)} {line : List UInt8}
    (hplace : t.locate config.mountsPath = .ok place)
    (htable : t.entry? place = some (.file (Mount.joinLines (before ++ behind))))
    (hapart : Apart config t place) (hline : 0x0A ∉ line) (hforeign : Mount.Foreign line) :
    let r := after config xs
    let t' := t.write place (Mount.joinLines (before ++ line :: behind))
    (r.refresh t' now = r.refresh t now ↔
        (Utf8.toString? line).isSome ∨
          Utf8.toString? (Mount.joinLines (before ++ behind)) = none) ∧
      (Utf8.toString? line = none → r.refresh t' now = .error (.file .notText) ∧
        after config (xs ++ [⟨t', now⟩]) = r) := by
  intro r t'
  have hconfig : r.config = config := (tracks_after config xs).config_eq
  rw [← hconfig] at hplace hapart
  have hplace' : t'.locate r.config.mountsPath = .ok place :=
    (FileTree.locate_write htable _ _).trans hplace
  have hfails (hnone : Utf8.toString? line = none) :
      r.refresh t' now = .error (.file .notText) :=
    (refresh_eq_notText_iff hplace' (FileTree.entry?_write_self htable _) now).2
      (Mount.ofBytes?_joinLines_eq_none before behind (Mount.ofBytes?_eq_none_iff.2 hnone))
  refine ⟨⟨fun hsame => ?_, fun hor => ?_⟩, fun hnone => ⟨hfails hnone, ?_⟩⟩
  · cases hdecode : Utf8.toString? line with
    | some text => exact .inl rfl
    | none =>
      rw [hfails hdecode] at hsame
      exact .inr (Mount.ofBytes?_eq_none_iff.1
        ((refresh_eq_notText_iff hplace htable now).1 hsame.symm))
  · refine refresh_write htable hplace hapart ?_ now
    cases hdecode : Utf8.toString? line with
    | some text =>
      exact Mount.ofBytes?_joinLines_insert before behind
        (Mount.ofBytes?_of_foreign hline hforeign hdecode)
    | none =>
      have hold := hor.resolve_left (by simp [hdecode])
      rw [Mount.ofBytes?_joinLines_eq_none before behind (Mount.ofBytes?_eq_none_iff.2 hdecode),
        Mount.ofBytes?_eq_none_iff.2 hold]
  · rw [after_concat, attempt, hfails hnone]

theorem foreign_line_harmless_proc :
    let t := plainTree "/dev/sdb /u vfat rw 0 0\n" [("sdb", "1\n")]
    let place : Place := [Utf8.ofString "mounts"]
    let before := [Utf8.ofString "/dev/sdb /u vfat rw 0 0"]
    let line := Utf8.ofString "proc /proc proc rw 0 0"
    t.locate plainConfig.mountsPath = .ok place ∧
      t.entry? place = some (.file (Mount.joinLines (before ++ [[]]))) ∧
      Apart plainConfig t place ∧ 0x0A ∉ line ∧ Mount.Foreign line ∧
      (after plainConfig []).refresh
          (t.write place (Mount.joinLines (before ++ line :: [[]]))) ⟨10, 0⟩ =
        (after plainConfig []).refresh t ⟨10, 0⟩ := by
  intro t place before line
  have hplace : t.locate plainConfig.mountsPath = .ok place := by decide +kernel
  have htable : t.entry? place = some (.file (Mount.joinLines (before ++ [[]]))) := by
    decide +kernel
  have hapart : Apart plainConfig t place := by decide +kernel
  have hline : 0x0A ∉ line := by decide +kernel
  have hforeign : Mount.Foreign line := by decide +kernel
  refine ⟨hplace, htable, hapart, hline, hforeign, ?_⟩
  have hiff := foreign_line_harmless_iff plainConfig [] ⟨10, 0⟩ hplace htable hapart hline hforeign
  exact hiff.1.2 (.inl (by decide +kernel))

/-- One byte that is not text, in the mount point of a file system that is no device, and a
removable disk in the same table is not seen. -/
theorem foreign_line_hides_disk :
    let t := plainTree "/dev/sdb /u vfat rw 0 0\n" [("sdb", "1\n")]
    let line := Utf8.ofString "fuse /mnt/" ++ [0xFF] ++ Utf8.ofString " fuse rw 0 0"
    let t' := t.write [Utf8.ofString "mounts"]
      (Mount.joinLines [Utf8.ofString "/dev/sdb /u vfat rw 0 0", line, []])
    let idsAfter (t : FileTree) : Option (List String) :=
      ((after plainConfig []).refresh t ⟨10, 0⟩).toOption.map fun out =>
        out.2.devices.map (·.id.text)
    0x0A ∉ line ∧ Mount.Foreign line ∧
      t.readBytes plainConfig.mountsPath =
        .ok (Mount.joinLines [Utf8.ofString "/dev/sdb /u vfat rw 0 0", []]) ∧
      idsAfter t = some ["nodcim:DEV:sdb"] ∧ idsAfter t' = none := by
  decide +kernel

end MountRegistry

end Hotplug
