import Hotplug.Registry.Mounts
/-!
# What a reading depends on

The parts of a file system that the registry of the mount table looks at. Each stage depends on what
the stages before it have found: first the table and the names of file systems, then what is mounted
and where, then the disks.
-/

namespace Hotplug

inductive Demand where
  /-- What a path leads to. -/
  | entry (p : Path)
  /-- The contents of the file that a path leads to. -/
  | contents (p : Path)
  /-- What the entries of a directory lead to. -/
  | entries (p : Path)
deriving DecidableEq, Repr

namespace Demand

private def mounts (c : Config) (t : FileTree) : List Mount :=
  ((t.readText c.mountsPath).toOption.map Mount.parse).getD []

def ofTable (c : Config) : List Demand :=
  [.contents c.mountsPath, .entries c.diskByUuidPath, .entries c.diskByLabelPath]

def ofMounts (c : Config) (t : FileTree) : List Demand :=
  (mounts c t).flatMap fun m => (m.device :: BlockDevice.dcimPaths m.point).map .entry

def ofDisks (c : Config) (t : FileTree) : List Demand :=
  (mounts c t).flatMap fun m =>
    match m.blockName? t with
    | none => []
    | some block =>
      let dir := BlockDevice.node c.sysfsPath block
      [.entry (dir.joinText "partition"), .contents (dir.joinText "removable"),
        .contents ((dir.joinText "..").joinText "removable"),
        .contents (dir.joinText "device/model"),
        .contents ((dir.joinText "..").joinText "device/model")]

/-- The attributes of a block device in the table are demanded, and those of its disk. -/
theorem contents_mem_ofDisks {c : Config} {t : FileTree} {text : String} {m : Mount}
    {block key : String} (htext : t.readText c.mountsPath = .ok text) (hm : m ∈ Mount.parse text)
    (hblock : m.blockName? t = some block) (hkey : key = "removable" ∨ key = "device/model") :
    .contents ((BlockDevice.node c.sysfsPath block).joinText key) ∈ ofDisks c t ∧
      .contents (((BlockDevice.node c.sysfsPath block).joinText "..").joinText key) ∈
        ofDisks c t := by
  have hmounts : mounts c t = Mount.parse text := by
    rw [mounts, htext]
    rfl
  simp only [ofDisks, hmounts, List.mem_flatMap]
  rcases hkey with rfl | rfl <;> exact ⟨⟨m, hm, by simp [hblock]⟩, ⟨m, hm, by simp [hblock]⟩⟩

def stages (c : Config) : List (FileTree → List Demand) :=
  [fun _ => ofTable c, ofMounts c, ofDisks c]

end Demand

end Hotplug
