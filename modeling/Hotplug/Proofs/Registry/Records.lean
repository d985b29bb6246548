import Hotplug.Proofs.BlockDevice.Link
import Hotplug.Proofs.Registry.History
import Hotplug.Proofs.Text.Escape
/-!
# What holds of every record

A record is made once, of a mount in the table of some tree, and then kept or dropped as it is. So
what holds of every new record holds of every record at any time (`forall_mem_after`): whatever the
table, the links and the attributes of disks say, it has a location and a name, and an id that names
a file system or a block device (`wellFormed_of_mem_after`). Where a record is and which block device
it is of is decided by the tree that was read last (`Tracks.exists_mount`, `Tracks.exists_blockAt?`).
The name of a block device is that of one entry of a directory, so nothing outside the directory of
all block devices is taken for one of them (`registry_is_wellFormed`).
-/

namespace Hotplug

namespace Mount

theorem exists_text_point {text : String} {m : Mount} (h : m ∈ parse text) :
    ∃ s, s ≠ "" ∧ m.point = .ofString s := by
  obtain ⟨line, -, hline⟩ := List.mem_filterMap.1 h
  unfold ofLine? at hline
  split at hline
  next device point fsType rest hwords =>
    have hpoint : point ≠ [] := by
      apply not_isEmpty_of_mem_words (s := line)
      simp [hwords]
    split at hline
    · obtain rfl := Option.some.inj hline
      refine ⟨String.ofList (Escape.octal point), ?_, ?_⟩
      · rw [ne_eq, String.ofList_eq_empty_iff]
        exact Escape.octal_ne_nil hpoint
      · rw [Path.ofString, Utf8.ofString, String.toList_ofList]
    · contradiction
  next => contradiction

end Mount

theorem DeviceId.text_inj {a b : DeviceId} : a.text = b.text ↔ a = b := by
  cases a
  cases b
  simp

/-- What every record of a mounted block device satisfies. -/
structure AttachedDevice.WellFormed (d : AttachedDevice) : Prop where
  location_text : ∃ s, s ≠ "" ∧ d.location = .ofString s
  name_ne_empty : d.name ≠ ""
  kind_eq : d.id.kind = .withDcim ∨ d.id.kind = .withoutDcim
  uniqueId_eq : (∃ uuid, uuid ≠ "" ∧ d.id.uniqueId = "UUID:" ++ uuid) ∨
    ∃ block, Path.Ordinary block ∧ d.id.uniqueId = "DEV:" ++ block

namespace MountRegistry

open AttachedDevice (Ascending)

theorem exists_text_point {config : Config} {t : FileTree} {m : Mount}
    (h : m ∈ table config t) : ∃ s, s ≠ "" ∧ m.point = .ofString s := by
  unfold table at h
  split at h
  · exact Mount.exists_text_point h
  · contradiction

theorem exists_mount_of_mem_sightings {config : Config} {t : FileTree} {mounts : List Mount}
    {s : Sighting} (h : s ∈ sightings config t mounts) :
    ∃ m ∈ mounts, m.point = s.point ∧ m.blockName? t = some s.block := by
  rw [sightings_eq] at h
  obtain ⟨m, hm, hsighting⟩ := List.mem_filterMap.1 h
  obtain ⟨block, hblock, rfl⟩ := Option.map_eq_some_iff.1 hsighting
  exact ⟨m, hm, rfl, (Option.filter_eq_some_iff.1 hblock).1⟩

theorem mem_survey {config : Config} {t : FileTree} {now : Instant}
    {previous : List AttachedDevice} {d : AttachedDevice}
    (h : d ∈ survey config t now previous) :
    d ∈ previous ∨ ∃ s ∈ sightings config t (table config t), d = newRecord config t now s := by
  have hrecord : recordAt? (survey config t now previous) d.location = some d :=
    (recordAt?_eq_some_iff (ascending_survey config t now previous)).2 ⟨h, .refl _⟩
  rw [recordAt?_survey] at hrecord
  obtain ⟨s, hs, rfl⟩ := Option.map_eq_some_iff.1 hrecord
  have hsighting : s ∈ sightings config t (table config t) :=
    (List.mem_filter.1 (List.mem_of_getLast? hs)).1
  unfold recordOf
  split
  next d hd =>
    split
    · exact .inl (mem_of_recordAt? hd)
    · exact .inr ⟨s, hsighting, rfl⟩
  next => exact .inr ⟨s, hsighting, rfl⟩

theorem forall_mem_after {config : Config} {P : AttachedDevice → Prop}
    (hnew : ∀ t now, ∀ s ∈ sightings config t (table config t), P (newRecord config t now s))
    (xs : List Reading) : ∀ d ∈ (after config xs).devices, P d := by
  induction xs using List.reverseRecOn with
  | nil => exact List.forall_mem_nil _
  | append_singleton xs x ih =>
    rw [after_concat, attempt]
    split
    next out hout =>
      obtain ⟨-, -, hafter⟩ := refresh_eq_ok_iff.1 hout
      rw [hafter, (tracks_after config xs).config_eq]
      intro d hd
      rcases mem_survey hd with hd | ⟨s, hs, rfl⟩
      · exact ih d hd
      · exact hnew x.tree x.now s hs
    next => exact ih

theorem uniqueIdOf_cases (config : Config) (t : FileTree) (block : String) :
    (∃ uuid, BlockDevice.linkName? t config.diskByUuidPath block = some uuid ∧
        uniqueIdOf config t block = "UUID:" ++ uuid) ∨
      uniqueIdOf config t block = "DEV:" ++ block := by
  unfold uniqueIdOf
  cases hlink : BlockDevice.linkName? t config.diskByUuidPath block with
  | none => exact .inr rfl
  | some uuid => exact .inl ⟨uuid, rfl, rfl⟩

theorem nameOf_ne_empty {block : String} (h : Path.Ordinary block) (config : Config)
    (t : FileTree) : nameOf config t block ≠ "" := by
  unfold nameOf
  split
  next label hlabel => exact BlockDevice.linkName?_ne_empty hlabel
  next =>
    cases hmodel : BlockDevice.model? t config.sysfsPath block with
    | none => exact h.ne_empty
    | some model => exact BlockDevice.attribute?_ne_empty hmodel

theorem wellFormed_newRecord {config : Config} {t : FileTree} (now : Instant) {s : Sighting}
    (h : s ∈ sightings config t (table config t)) : (newRecord config t now s).WellFormed := by
  obtain ⟨m, hm, hpoint, hblock⟩ := exists_mount_of_mem_sightings h
  have hordinary := Mount.ordinary_of_blockName? hblock
  constructor
  case location_text =>
    rw [newRecord, ← hpoint]
    exact exists_text_point hm
  case name_ne_empty => exact nameOf_ne_empty hordinary config t
  case kind_eq =>
    rw [newRecord, DeviceId.kind_make]
    split
    · exact .inl rfl
    · exact .inr rfl
  case uniqueId_eq =>
    rw [newRecord, DeviceId.uniqueId_make]
    rcases uniqueIdOf_cases config t s.block with ⟨uuid, huuid, hunique⟩ | hunique
    · exact .inl ⟨uuid, BlockDevice.linkName?_ne_empty huuid, hunique⟩
    · exact .inr ⟨s.block, hordinary, hunique⟩

theorem wellFormed_of_mem_after {config : Config} {xs : List Reading} {d : AttachedDevice}
    (h : d ∈ (after config xs).devices) : d.WellFormed :=
  forall_mem_after (fun _ now _ hs => wellFormed_newRecord now hs) xs d h

theorem isRemovable_of_mem_after {config : Config} {xs : List Reading} {d : AttachedDevice}
    (h : d ∈ (after config xs).devices) : d.id.isRemovable = true := by
  rw [DeviceId.isRemovable]
  rcases (wellFormed_of_mem_after h).kind_eq with hkind | hkind <;> rw [hkind] <;> rfl

theorem bytes_location_ne_nil {config : Config} {xs : List Reading} {d : AttachedDevice}
    (h : d ∈ (after config xs).devices) : d.location.bytes ≠ [] := by
  obtain ⟨s, hs, hlocation⟩ := (wellFormed_of_mem_after h).location_text
  rw [hlocation]
  apply Utf8.encode_ne_nil
  intro hnil
  exact hs (String.toList_eq_nil_iff.1 hnil)

theorem Tracks.exists_blockAt? {config : Config} {last : Option FileTree} {r : MountRegistry}
    (h : Tracks config last r) {d : AttachedDevice} (hd : d ∈ r.devices) :
    ∃ t block, last = some t ∧ blockAt? config t d.location = some block ∧
      d.id.uniqueId = uniqueIdOf config t block := by
  have hid := h.uniqueId_eq d.location
  rw [(recordAt?_eq_some_iff h.ascending).2 ⟨hd, .refl _⟩, Option.map_some] at hid
  obtain ⟨t, hlast, htracked⟩ := Option.bind_eq_some_iff.1 hid.symm
  obtain ⟨block, hblock, hunique⟩ := Option.map_eq_some_iff.1 htracked
  exact ⟨t, block, hlast, hblock, hunique.symm⟩

theorem Tracks.exists_mount {config : Config} {last : Option FileTree} {r : MountRegistry}
    (h : Tracks config last r) {d : AttachedDevice} (hd : d ∈ r.devices) :
    ∃ m ∈ last.elim [] (table config), m.point.Same d.location := by
  obtain ⟨t, block, rfl, hblock, -⟩ := h.exists_blockAt? hd
  obtain ⟨m, hm, -⟩ := List.mem_filterMap.1 (List.mem_of_getLast? hblock)
  obtain ⟨hmem, hsame⟩ := List.mem_filter.1 hm
  exact ⟨m, hmem, of_decide_eq_true hsame⟩

/-- The records of a registry are in the order of their places, one at each; every one is
well-formed and lies at a mount point of the table read last. What is asked of a block device is
asked of a directory right below that of all block devices. -/
theorem registry_is_wellFormed (config : Config) (xs : List Reading) :
    let ds := Registry.attached (after config xs)
    let table := (lastRead config xs).elim [] (table config)
    Ascending ds ∧
      (∀ d ∈ ds, ∀ e ∈ ds, d.location.Same e.location → d = e) ∧
      (∀ d ∈ ds, d.WellFormed ∧ ∃ m ∈ table, m.point.Same d.location) ∧
      ∀ (t : FileTree) (m : Mount) (block : String), m.blockName? t = some block →
        Path.Ordinary block ∧
          (BlockDevice.node config.sysfsPath block).components =
            (config.sysfsPath.joinText "class/block").components ++
              [.name (Utf8.ofString block)] := by
  intro ds table
  have htracks := tracks_after config xs
  refine ⟨htracks.ascending, fun d hd e he hsame => ?_, fun d hd => ?_, fun t m block hblock => ?_⟩
  · have hfound := (recordAt?_eq_some_iff htracks.ascending).2 ⟨hd, hsame⟩
    rw [(recordAt?_eq_some_iff htracks.ascending).2 ⟨he, .refl _⟩] at hfound
    exact (Option.some.inj hfound).symm
  · exact ⟨wellFormed_of_mem_after hd, htracks.exists_mount hd⟩
  · have hordinary := Mount.ordinary_of_blockName? hblock
    exact ⟨hordinary, BlockDevice.components_node hordinary config.sysfsPath⟩

/-- A table of odd mounts, with links whose names are not text. -/
def oddTree : FileTree :=
  let text := "/dev/sdb /a\\377b vfat rw 0 0\n/dev/ /./u/ vfat rw 0 0\n" ++
    "/dev/.. /v vfat rw 0 0\n/dev/.//sdc/. . vfat rw 0 0\n"
  let disks := [("sdb", "1\n"), ("dev", "1\n"), ("sdc", "1\n")]
  ((linkedTree text disks [("\\xff", "/sdc")]).put [Utf8.ofString "label"] .dir).put
    [Utf8.ofString "label", [0xFF]] (.link (.ofString "//sdb/."))

theorem registry_is_wellFormed_odd :
    let before := plainTree "/dev/sdb /a\\377b vfat rw 0 0\n" [("sdb", "1\n")]
    let xs : List Reading := [⟨before, ⟨10, 0⟩⟩, ⟨oddTree, ⟨20, 0⟩⟩, ⟨default, ⟨30, 0⟩⟩]
    let ds := Registry.attached (after plainConfig xs)
    ds.map (fun d => (d.location, d.name, d.id.uniqueId)) =
        [(.ofString "/a\uFFFDb", "sdb", "DEV:sdb"), (.ofString "/./u/", "dev", "DEV:dev"),
          (.ofString ".", "sdc", "UUID:\uFFFD")] ∧
      Ascending ds ∧
      ∀ d ∈ ds, d.WellFormed ∧
        ∃ m ∈ (lastRead plainConfig xs).elim [] (table plainConfig), m.point.Same d.location := by
  intro before xs ds
  obtain ⟨hascending, -, hrecords, -⟩ := registry_is_wellFormed plainConfig xs
  exact ⟨by decide +kernel, hascending, hrecords⟩

end MountRegistry

end Hotplug
