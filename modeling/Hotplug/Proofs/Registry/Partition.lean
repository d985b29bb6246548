import Hotplug.Proofs.BlockDevice.Partition
import Hotplug.Proofs.Registry.Foreign
import Hotplug.Proofs.Text.Number
/-!
# Partitions in the registry

A partition is tracked like its disk: where the table names one in place of the other, the same
places are tracked, and a new record of either has the model of the disk for a name
(`partition_is_its_disk`). The bounds of the system set a limit to this: a flag that is reached from
the disk may be one link too far away from the partition (`partition_beyond_last_link`).
-/

namespace Hotplug

def Mount.Lists (table : List UInt8) : Prop :=
  ∃ ms, ms ≠ [] ∧ ofBytes? table = some ms

namespace BlockDevice

variable {t : FileTree} {p : Path}

/-- A text with a slash, as any table with a device in it, is not the number that marks a disk. -/
theorem readTrimmed?_of_lists {place : Place} {contents : List UInt8}
    (hp : t.locate p = .ok place) (h : t.entry? place = some (.file contents))
    (hlists : Mount.Lists contents) :
    ∃ value, readTrimmed? t p = some value ∧ unsigned? value.toList = none := by
  obtain ⟨ms, hne, hms⟩ := hlists
  obtain ⟨text, htext, rfl⟩ := Option.map_eq_some_iff.1 hms
  have hslash : '/' ∈ trim text.toList := mem_trim (Mount.slash_mem hne) (by decide)
  have hread : t.readText p = .ok text := by
    rw [FileTree.readText_of_file hp h, htext]
    rfl
  refine ⟨String.ofList (trim text.toList), ?_, ?_⟩
  · simp only [readTrimmed?, hread, if_neg (List.ne_nil_of_mem hslash)]
  · rw [String.toList_ofList]
    exact unsigned?_eq_none hslash (by decide) (by decide)

section Write

variable {place : Place} {old contents : List UInt8} (h : t.entry? place = some (.file old))
  (hold : Mount.Lists old) (hnew : Mount.Lists contents)

include h hold hnew

theorem readTrimmed?_write_cases (p : Path) :
    readTrimmed? (t.write place contents) p = readTrimmed? t p ∨
      ∃ value value', readTrimmed? t p = some value ∧ unsigned? value.toList = none ∧
        readTrimmed? (t.write place contents) p = some value' ∧
        unsigned? value'.toList = none := by
  by_cases hp : t.locate p = .ok place
  · obtain ⟨value, hvalue, hnone⟩ := readTrimmed?_of_lists hp h hold
    have hp' := (FileTree.locate_write h contents p).trans hp
    obtain ⟨value', hvalue', hnone'⟩ :=
      readTrimmed?_of_lists hp' (FileTree.entry?_write_self h contents) hnew
    exact .inr ⟨value, value', hvalue, hnone, hvalue', hnone'⟩
  · exact .inl (readTrimmed?_write h contents hp)

/-- Which disks are removable does not depend on what the mount table lists, even where the table
itself is taken for an attribute. -/
theorem isRemovable_write (sysfs : Path) (block : String) :
    isRemovable (t.write place contents) sysfs block = isRemovable t sysfs block := by
  unfold isRemovable attribute?
  simp only [FileTree.pathExists_write h]
  rcases readTrimmed?_write_cases h hold hnew ((node sysfs block).joinText "removable") with
    hown | ⟨v, v', hv, hvn, hv', hvn'⟩
  · rw [hown]
    cases readTrimmed? t ((node sysfs block).joinText "removable") with
    | some v => rfl
    | none =>
      cases t.pathExists ((node sysfs block).joinText "partition") with
      | false => rfl
      | true =>
        rcases readTrimmed?_write_cases h hold hnew
            (((node sysfs block).joinText "..").joinText "removable") with
          hdisk | ⟨v, v', hv, hvn, hv', hvn'⟩
        · simp [hdisk]
        · simp [hv, hv', hvn, hvn']
  · simp [hv, hv', hvn, hvn']

end Write

end BlockDevice

namespace MountRegistry

open BlockDevice (Partition Inherits)

section File

variable {t : FileTree} {place : Place} {bytes : List UInt8}

theorem table_of_file {config : Config} (hplace : t.locate config.mountsPath = .ok place)
    (htable : t.entry? place = some (.file bytes)) :
    table config t = (Mount.ofBytes? bytes).getD [] := by
  rw [table, FileTree.readText_of_file hplace htable, Mount.ofBytes?]
  cases Utf8.toString? bytes <;> rfl

theorem exists_refresh_iff {r : MountRegistry} (hplace : t.locate r.config.mountsPath = .ok place)
    (htable : t.entry? place = some (.file bytes)) (now : Instant) :
    (∃ out, r.refresh t now = .ok out) ↔ Mount.ofBytes? bytes ≠ none := by
  rw [ne_eq, Mount.ofBytes?_eq_none_iff]
  cases hout : r.refresh t now with
  | ok out =>
    obtain ⟨⟨text, htext⟩, -⟩ := refresh_eq_ok_iff.1 hout
    rw [FileTree.readText_of_file hplace htable] at htext
    refine iff_of_true ⟨out, rfl⟩ fun hnone => ?_
    simp [hnone] at htext
  | error e =>
    obtain ⟨cause, hread, -⟩ := refresh_eq_error_iff.1 hout
    rw [FileTree.readText_of_file hplace htable] at hread
    refine iff_of_false (fun ⟨out, hok⟩ => by contradiction) (not_not.2 ?_)
    cases htext : Utf8.toString? bytes with
    | none => rfl
    | some text => simp [htext] at hread

end File

def Mounts (t : FileTree) (line : List UInt8) (point : Path) (block : String) : Prop :=
  ∃ m, Mount.ofBytes? line = some [m] ∧ m.point.Same point ∧ m.blockName? t = some block

/-- The same tree but for a line of the table, which mounts a disk in place of its partition. -/
def Replaced (config : Config) (part disk : String) (t t' : FileTree) : Prop :=
  ∃ (place : Place) (before behind : List (List UInt8)) (line line' : List UInt8) (point : Path),
    t.locate config.mountsPath = .ok place ∧
      t.entry? place = some (.file (Mount.joinLines (before ++ line :: behind))) ∧
      Mounts t line point part ∧ Mounts t line' point disk ∧
      t' = t.write place (Mount.joinLines (before ++ line' :: behind))

theorem removableBlock?_write {config : Config} {t : FileTree} {place : Place}
    {old contents : List UInt8} (h : t.entry? place = some (.file old)) (hold : Mount.Lists old)
    (hnew : Mount.Lists contents) :
    removableBlock? config (t.write place contents) = removableBlock? config t := by
  funext m
  rw [removableBlock?, removableBlock?, Mount.blockName?_write h]
  congr 1
  funext block
  exact BlockDevice.isRemovable_write h hold hnew config.sysfsPath block

theorem getLast?_filterMap_cons {α β : Type} (f : α → Option β) (front back : List α) (x : α) :
    ((front ++ x :: back).filterMap f).getLast? =
      ((back.filterMap f).getLast?).or ((f x).or (front.filterMap f).getLast?) := by
  rw [List.filterMap_append, List.filterMap_cons]
  cases f x with
  | none => rw [List.getLast?_append, Option.none_or]
  | some y => simp [List.getLast?_append, List.getLast?_cons]

section Replaced

variable {config : Config} {t t' : FileTree} {part disk : String}

theorem Replaced.exists_tables (h : Replaced config part disk t t') :
    ∃ place bytes bytes',
      (t.locate config.mountsPath = .ok place ∧ t.entry? place = some (.file bytes)) ∧
      (t'.locate config.mountsPath = .ok place ∧ t'.entry? place = some (.file bytes')) ∧
      ((Mount.ofBytes? bytes = none ∧ Mount.ofBytes? bytes' = none) ∨
        ∃ front m m' back, Mount.ofBytes? bytes = some (front ++ m :: back) ∧
          Mount.ofBytes? bytes' = some (front ++ m' :: back) ∧ m.point.Same m'.point ∧
          m.blockName? t = some part ∧ m'.blockName? t = some disk ∧
          removableBlock? config t' = removableBlock? config t) := by
  obtain ⟨place, before, behind, line, line', point, hplace, htable, ⟨m, hm, hpoint, hblock⟩,
    ⟨m', hm', hpoint', hblock'⟩, rfl⟩ := h
  refine ⟨place, _, _, ⟨hplace, htable⟩, ⟨(FileTree.locate_write htable _ _).trans hplace,
    FileTree.entry?_write_self htable _⟩, ?_⟩
  rcases Mount.ofBytes?_joinLines_swap before behind hm hm' with hnone | ⟨front, back, hT, hT'⟩
  · exact .inl hnone
  · exact .inr ⟨front, m, m', back, hT, hT', hpoint.trans hpoint'.symm, hblock, hblock',
      removableBlock?_write htable ⟨_, by simp, hT⟩ ⟨_, by simp, hT'⟩⟩

theorem Replaced.refresh_iff (h : Replaced config part disk t t') {r : MountRegistry}
    (hconfig : r.config = config) (now now' : Instant) :
    (∃ out, r.refresh t now = .ok out) ↔ ∃ out, r.refresh t' now' = .ok out := by
  obtain ⟨place, bytes, bytes', ⟨hplace, htable⟩, ⟨hplace', htable'⟩, htexts⟩ := h.exists_tables
  rw [exists_refresh_iff (hconfig ▸ hplace) htable, exists_refresh_iff (hconfig ▸ hplace') htable']
  rcases htexts with ⟨hnone, hnone'⟩ | ⟨front, m, m', back, hT, hT', -⟩
  · rw [hnone, hnone']
  · simp [hT, hT']

theorem Replaced.blockAt?_cases (h : Replaced config part disk t t')
    (hflag : BlockDevice.isRemovable t config.sysfsPath part =
      BlockDevice.isRemovable t config.sysfsPath disk) (p : Path) :
    blockAt? config t' p = blockAt? config t p ∨
      blockAt? config t p = some part ∧ blockAt? config t' p = some disk := by
  obtain ⟨place, bytes, bytes', ⟨hplace, htable⟩, ⟨hplace', htable'⟩, htexts⟩ := h.exists_tables
  rw [blockAt?, blockAt?, table_of_file hplace htable, table_of_file hplace' htable']
  rcases htexts with ⟨hnone, hnone'⟩ | ⟨front, m, m', back, hT, hT', hpoint, hblock, hblock', hsame⟩
  · simp [hnone, hnone']
  · rw [hT, hT', hsame, Option.getD_some, Option.getD_some, List.filterMap_filter,
      List.filterMap_filter, getLast?_filterMap_cons, getLast?_filterMap_cons, removableBlock?,
      removableBlock?, hblock, hblock']
    simp only [hpoint.congr_left, Option.filter_some, hflag]
    -- What counts is the last one behind the line, or else the line, or else the last one before it.
    cases (List.filterMap (fun x => if decide (x.point.Same p) = true then
      removableBlock? config t x else none) back).getLast? with
    | some block => exact .inl rfl
    | none =>
      by_cases hp : m'.point.Same p
      · cases BlockDevice.isRemovable t config.sysfsPath disk <;> simp [hp]
      · simp [hp]

end Replaced

theorem exists_device_iff_isSome_blockAt? {config : Config} {xs : List Reading} {t : FileTree}
    {now : Instant} {events : List Event} {r : MountRegistry}
    (hr : (after config xs).refresh t now = .ok (events, r)) (p : Path) :
    (∃ d ∈ r.devices, d.location.Same p) ↔ (blockAt? config t p).isSome = true := by
  have hid := ((tracks_after config xs).refresh hr).uniqueId_eq p
  rw [Option.bind_some, trackedId?] at hid
  have hrecord : (recordAt? r.devices p).isSome = true ↔ ∃ d ∈ r.devices, d.location.Same p := by
    rw [recordAt?, List.find?_isSome]
    simp
  rw [← hrecord, ← Option.isSome_map, hid, Option.isSome_map]

theorem name_of_new {config : Config} {xs : List Reading} {t : FileTree} {now : Instant}
    {events : List Event} {r : MountRegistry} {d : AttachedDevice} {block : String}
    (hr : (after config xs).refresh t now = .ok (events, r)) (hd : d ∈ r.devices)
    (hnew : (recordAt? (after config xs).devices d.location).map (·.id.uniqueId) ≠
      some d.id.uniqueId)
    (hblock : blockAt? config t d.location = some block) : d.name = nameOf config t block := by
  obtain ⟨-, -, rfl⟩ := refresh_eq_ok_iff.1 hr
  rw [← (tracks_after config xs).config_eq] at hblock ⊢
  have hat := (recordAt?_eq_some_iff (ascending_survey _ t now _)).2 ⟨hd, .refl _⟩
  obtain ⟨s, hs, hrecord⟩ := recordAt?_survey_of_ne _ t now _ hat hnew
  rw [← map_block_sightingAt?, hs, Option.map_some] at hblock
  rw [hrecord, ← Option.some.inj hblock]
  rfl

/-- A partition that has a flag or a model from its disk counts as the disk. With a line for the disk
in place of one for the partition, a reading succeeds as before and tracks the same places, and a new
record of either has the model for a name, if no link names it. -/
theorem partition_is_its_disk (config : Config) {t : FileTree} {part disk : String}
    (h : Partition t config.sysfsPath part disk) :
    (Inherits t config.sysfsPath part disk "removable" →
      BlockDevice.isRemovable t config.sysfsPath part =
          BlockDevice.isRemovable t config.sysfsPath disk ∧
        ∀ t', Replaced config part disk t t' → ∀ xs now now',
          let r := after config xs
          ((∃ out, r.refresh t now = .ok out) ↔ ∃ out, r.refresh t' now' = .ok out) ∧
            ∀ events events' s s', r.refresh t now = .ok (events, s) →
              r.refresh t' now' = .ok (events', s') → ∀ p,
                ((∃ d ∈ s.devices, d.location.Same p) ↔ ∃ d ∈ s'.devices, d.location.Same p) ∧
                (blockAt? config t' p = blockAt? config t p ∨
                  blockAt? config t p = some part ∧ blockAt? config t' p = some disk)) ∧
      (Inherits t config.sysfsPath part disk "device/model" →
        BlockDevice.model? t config.sysfsPath part = BlockDevice.model? t config.sysfsPath disk ∧
          ∀ model, BlockDevice.model? t config.sysfsPath disk = some model →
            BlockDevice.linkName? t config.diskByLabelPath part = none →
            BlockDevice.linkName? t config.diskByLabelPath disk = none →
            ∀ xs now events r, (after config xs).refresh t now = .ok (events, r) →
              ∀ d ∈ r.devices, (recordAt? (after config xs).devices d.location).map
                  (·.id.uniqueId) ≠ some d.id.uniqueId →
                (blockAt? config t d.location = some part ∨
                  blockAt? config t d.location = some disk) → d.name = model) := by
  refine ⟨fun hinherits => ?_, fun hinherits => ?_⟩
  · have hflag : BlockDevice.isRemovable t config.sysfsPath part =
        BlockDevice.isRemovable t config.sysfsPath disk := by
      rw [BlockDevice.isRemovable, BlockDevice.attribute?_eq h (by decide) hinherits,
        BlockDevice.isRemovable]
    refine ⟨hflag, fun t' ht' xs now now' => ⟨ht'.refresh_iff (tracks_after config xs).config_eq _ _,
      fun events events' s s' hs hs' p => ?_⟩⟩
    have hblocks := ht'.blockAt?_cases hflag p
    refine ⟨?_, hblocks⟩
    rw [exists_device_iff_isSome_blockAt? hs, exists_device_iff_isSome_blockAt? hs']
    rcases hblocks with hsame | ⟨hpart, hdisk⟩
    · rw [hsame]
    · rw [hpart, hdisk, Option.isSome_some, Option.isSome_some]
  · have hmodel : BlockDevice.model? t config.sysfsPath part =
        BlockDevice.model? t config.sysfsPath disk := BlockDevice.attribute?_eq h (by decide) hinherits
    refine ⟨hmodel, fun model hdisk hlabel hlabel' xs now events r hr d hd hnew hblock => ?_⟩
    rcases hblock with hblock | hblock
    · rw [name_of_new hr hd hnew hblock, nameOf, hlabel, hmodel, hdisk, Option.getD_some]
    · rw [name_of_new hr hd hnew hblock, nameOf, hlabel', hdisk, Option.getD_some]

/-- A disk and its partition, both behind links, of which the partition passes `n` more. The flag of
the disk is a link, too. -/
def nestedTree (n : Nat) : FileTree where
  workingDir := []
  entries :=
    let place (p : String) : Place := (Path.ofString p).segments
    let block := place "sys/class/block"
    let disk := place "sys/devices/sdb"
    let name (i : Nat) : Name := if i = 0 then Utf8.ofString "sdb1" else [0x6C, UInt8.ofNat i]
    [(place "mounts", .file (Utf8.ofString "/dev/sdb1 /u vfat rw 0 0\n")),
      (place "sys", .dir), (place "sys/class", .dir), (block, .dir), (place "sys/devices", .dir),
      (disk, .dir), (disk ++ place "flag", .file (Utf8.ofString "1\n")),
      (disk ++ place "removable", .link (.ofString "flag")), (disk ++ place "device", .dir),
      (disk ++ place "device/model", .file (Utf8.ofString "Stick\n")),
      (disk ++ place "sdb1", .dir), (disk ++ place "sdb1/partition", .file (Utf8.ofString "1\n")),
      (block ++ place "sdb", .link (.ofString "../../devices/sdb")),
      (block ++ [name n], .link (.ofString "../../devices/sdb/sdb1"))] ++
    (List.range n).map fun i => (block ++ [name i], .link ⟨name (i + 1)⟩)

theorem partition_nestedTree {n : Nat} (h : n = 0 ∨ n = 39) :
    Partition (nestedTree n) plainConfig.sysfsPath "sdb1" "sdb" := by
  refine ⟨⟨by decide, by decide, by decide, by decide⟩, ⟨by decide, by decide, by decide, by decide⟩,
    ⟨["sys", "devices", "sdb"].map Utf8.ofString, Utf8.ofString "sdb1", ?_, ?_, ?_⟩, ?_, ?_⟩
  all_goals rcases h with rfl | rfl <;> decide +kernel

theorem inherits_nestedTree {key : String} (h : key ∈ BlockDevice.diskKeys) :
    Inherits (nestedTree 0) plainConfig.sysfsPath "sdb1" "sdb" key := by
  have hkey : key = "removable" ∨ key = "device/model" := by simpa [BlockDevice.diskKeys] using h
  refine ⟨?_, iff_of_false (not_or.2 ⟨?_, ?_⟩) (not_or.2 ⟨?_, ?_⟩)⟩
  all_goals rcases hkey with rfl | rfl <;> decide +kernel

theorem partition_is_its_disk_nested :
    let t := nestedTree 0
    let sysfs := plainConfig.sysfsPath
    let place : Place := [Utf8.ofString "mounts"]
    let line := Utf8.ofString "/dev/sdb1 /u vfat rw 0 0"
    let line' := Utf8.ofString "/dev/sdb //u vfat rw 0 0"
    let u := Path.ofString "/u"
    let r := after plainConfig []
    let t' := t.write place (Mount.joinLines ([] ++ line' :: [[]]))
    Partition t sysfs "sdb1" "sdb" ∧
      (∀ key ∈ BlockDevice.diskKeys, Inherits t sysfs "sdb1" "sdb" key) ∧
      t.locate plainConfig.mountsPath = .ok place ∧
      t.entry? place = some (.file (Mount.joinLines ([] ++ line :: [[]]))) ∧
      Mounts t line u "sdb1" ∧ Mounts t line' u "sdb" ∧
      BlockDevice.linkName? t plainConfig.diskByLabelPath "sdb1" = none ∧
      BlockDevice.linkName? t plainConfig.diskByLabelPath "sdb" = none ∧
      ∃ events s events' s', r.refresh t ⟨10, 0⟩ = .ok (events, s) ∧
        r.refresh t' ⟨20, 0⟩ = .ok (events', s') ∧
        (∃ d ∈ s.devices, d.location.Same u) ∧ (∃ d ∈ s'.devices, d.location.Same u) ∧
        ∀ d ∈ s.devices, d.location = u ∧ d.name = "Stick" := by
  intro t sysfs place line line' u r t'
  have hpartition : Partition t sysfs "sdb1" "sdb" := partition_nestedTree (.inl rfl)
  have hplace : t.locate plainConfig.mountsPath = .ok place := by decide +kernel
  have htable : t.entry? place = some (.file (Mount.joinLines ([] ++ line :: [[]]))) := by
    decide +kernel
  have hline : Mounts t line u "sdb1" :=
    ⟨⟨.ofString "/dev/sdb1", u, "vfat"⟩, by decide +kernel⟩
  have hline' : Mounts t line' u "sdb" :=
    ⟨⟨.ofString "/dev/sdb", .ofString "//u", "vfat"⟩, by decide +kernel⟩
  have hlabel : BlockDevice.linkName? t plainConfig.diskByLabelPath "sdb1" = none := by
    decide +kernel
  have hlabel' : BlockDevice.linkName? t plainConfig.diskByLabelPath "sdb" = none := by
    decide +kernel
  obtain ⟨hremovable, hmodel⟩ := partition_is_its_disk plainConfig hpartition
  obtain ⟨-, htracked⟩ := hremovable (inherits_nestedTree (by decide))
  have hreplaced : Replaced plainConfig "sdb1" "sdb" t t' :=
    ⟨place, [], [[]], line, line', u, hplace, htable, hline, hline', rfl⟩
  obtain ⟨hiff, hplaces⟩ := htracked t' hreplaced [] ⟨10, 0⟩ ⟨20, 0⟩
  obtain ⟨-, hnamed⟩ := hmodel (inherits_nestedTree (by decide))
  have hsucceeds : ∃ out, r.refresh t ⟨10, 0⟩ = .ok out :=
    (exists_refresh_iff hplace htable ⟨10, 0⟩).2 (by decide +kernel)
  obtain ⟨⟨events, s⟩, hs⟩ := hsucceeds
  obtain ⟨⟨events', s'⟩, hs'⟩ := hiff.1 ⟨_, hs⟩
  have hdevices : ((r.refresh t ⟨10, 0⟩).toOption.map fun out => out.2.devices.map (·.location)) =
      some [u] := by decide +kernel
  rw [hs] at hdevices
  have hlocations : s.devices.map (·.location) = [u] := Option.some.inj hdevices
  have hlocation : ∀ d ∈ s.devices, d.location = u := fun d hd =>
    List.mem_singleton.1 (hlocations ▸ List.mem_map_of_mem hd)
  obtain ⟨d, hd⟩ : ∃ d, d ∈ s.devices := by
    apply List.exists_mem_of_ne_nil
    rintro hnil
    rw [hnil] at hlocations
    contradiction
  have hat : ∃ d ∈ s.devices, d.location.Same u := ⟨d, hd, hlocation d hd ▸ .refl u⟩
  refine ⟨hpartition, fun _ => inherits_nestedTree, hplace, htable, hline, hline', hlabel, hlabel',
    events, s, events', s', hs, hs', hat, (hplaces _ _ _ _ hs hs' u).1.1 hat, fun d hd => ?_⟩
  refine ⟨hlocation d hd, hnamed "Stick" (by decide +kernel) hlabel hlabel' [] ⟨10, 0⟩ events s hs
    d hd nofun (.inl ?_)⟩
  rw [hlocation d hd]
  decide +kernel

/-- The flag of a disk, itself a link, is one link too far away from a partition that is reached
through as many links as the system follows. -/
theorem partition_beyond_last_link :
    let t := nestedTree 39
    let sysfs := plainConfig.sysfsPath
    Partition t sysfs "sdb1" "sdb" ∧
      (∀ key ∈ BlockDevice.diskKeys,
        BlockDevice.readTrimmed? t ((BlockDevice.node sysfs "sdb1").joinText key) = none) ∧
      BlockDevice.isRemovable t sysfs "sdb" = true ∧
      BlockDevice.isRemovable t sysfs "sdb1" = false :=
  ⟨partition_nestedTree (.inr rfl), by decide +kernel, by decide +kernel, by decide +kernel⟩

end MountRegistry

end Hotplug
