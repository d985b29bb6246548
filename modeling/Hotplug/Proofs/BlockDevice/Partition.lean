import Hotplug.Proofs.BlockDevice.Link
import Hotplug.Proofs.FileTree.Walk
/-!
# Partitions

A partition is described in a directory inside that of its disk, and both may be reached through
links. The way up from the partition is taken behind all links, so it ends at the disk, and an
attribute that the partition lacks is that of the disk (`attribute?_eq`). Only the bounds of the
system can tell the two ways apart: one may be too long, or pass too many links.
-/

namespace Hotplug

namespace Path

theorem suffix_join (p : Path) {rest : Path} (h : rest.isAbsolute = false) :
    p.bytes <+: (p.join rest).bytes ∧ rest.bytes <:+ (p.join rest).bytes := by
  rw [join, if_neg (by simp [h])]
  split
  · exact ⟨List.prefix_append .., List.suffix_append ..⟩
  · exact ⟨List.prefix_append .., (List.suffix_cons ..).trans (List.suffix_append ..)⟩

theorem getLast?_join {p rest : Path} (h : rest.isAbsolute = false) (hrest : rest.bytes ≠ []) :
    (p.join rest).bytes.getLast? = rest.bytes.getLast? := by
  obtain ⟨front, hfront⟩ := (suffix_join p h).2
  rw [← hfront, List.getLast?_append, List.getLast?_eq_some_getLast hrest, Option.some_or]

end Path

namespace BlockDevice

variable {t : FileTree} {sysfs : Path} {part disk key : String}

def diskKeys : List String := ["removable", "device/model"]

/-- Where the attribute of a partition's disk is looked for. -/
def diskFile (sysfs : Path) (part key : String) : Path :=
  ((node sysfs part).joinText "..").joinText key

/-- A partition, described right below its disk. -/
structure Partition (t : FileTree) (sysfs : Path) (part disk : String) : Prop where
  ordinary_part : Path.Ordinary part
  ordinary_disk : Path.Ordinary disk
  nested : ∃ place name, t.locate (node sysfs disk) = .ok place ∧
    t.locate (node sysfs part) = .ok (place ++ [name]) ∧ t.entry? (place ++ [name]) = some .dir
  marked : t.pathExists ((node sysfs part).joinText "partition") = true
  unmarked : t.pathExists ((node sysfs disk).joinText "partition") = false

/-- A partition has no attribute of its own, and the system follows both ways to that of the disk or
neither. -/
structure Inherits (t : FileTree) (sysfs : Path) (part disk key : String) : Prop where
  lacking : readTrimmed? t ((node sysfs part).joinText key) = none
  refuses_iff : t.Refuses (diskFile sysfs part key) ↔ t.Refuses ((node sysfs disk).joinText key)

theorem readTrimmed?_congr {p q : Path} (h : t.locate p = t.locate q) :
    readTrimmed? t p = readTrimmed? t q := by
  rw [readTrimmed?, readTrimmed?, FileTree.readText_congr h]

theorem readTrimmed?_of_refuses {p : Path} (h : t.Refuses p) : readTrimmed? t p = none := by
  obtain ⟨e, he⟩ := FileTree.exists_readText_of_refuses h
  rw [readTrimmed?, he]

theorem getLast?_node {block : String} (h : Path.Ordinary block) (sysfs : Path) :
    (node sysfs block).bytes.getLast? ≠ some Path.slash := by
  rw [node, Path.joinText, Path.getLast?_join h.not_isAbsolute h.bytes_ne_nil]
  exact fun hlast => h.slash_not_mem_bytes (List.mem_of_getLast? hlast)

theorem locate_diskFile (h : Partition t sysfs part disk) (hkey : key ∈ diskKeys)
    (hpart : ¬ t.Refuses (diskFile sysfs part key))
    (hdisk : ¬ t.Refuses ((node sysfs disk).joinText key)) :
    t.locate (diskFile sysfs part key) = t.locate ((node sysfs disk).joinText key) := by
  obtain ⟨place, name, hlocdisk, hlocpart, hdir⟩ := h.nested
  have hrelative : ∀ key ∈ diskKeys,
      (Path.ofString key).isAbsolute = false ∧ 0 ∉ (Path.ofString key).bytes := by decide
  obtain ⟨hkeyRelative, hkeyNul⟩ := hrelative key hkey
  have hlength : ((node sysfs part).joinText "..").bytes.length ≤ FileTree.maxPath :=
    Nat.le_trans (Path.suffix_join _ hkeyRelative).1.length_le (Nat.not_lt.1 (not_or.1 hpart).1)
  have hup : t.locate ((node sysfs part).joinText "..") = .ok place :=
    FileTree.locate_joinText_dotDot hlocpart hdir (getLast?_node h.ordinary_part sysfs) hlength
  have hupEnd : ((node sysfs part).joinText "..").bytes.getLast? ≠ some Path.slash := by
    rw [Path.joinText, Path.getLast?_join (by decide) (by decide)]
    decide
  exact FileTree.locate_join_agree hkeyRelative hkeyNul hup hlocdisk hupEnd
    (getLast?_node h.ordinary_disk sysfs) hpart hdisk

theorem attribute?_eq (h : Partition t sysfs part disk) (hkey : key ∈ diskKeys)
    (hinherits : Inherits t sysfs part disk key) :
    attribute? t sysfs part key = attribute? t sysfs disk key := by
  have hread : readTrimmed? t (diskFile sysfs part key) =
      readTrimmed? t ((node sysfs disk).joinText key) := by
    by_cases hpart : t.Refuses (diskFile sysfs part key)
    · have hdisk := hinherits.refuses_iff.1 hpart
      rw [readTrimmed?_of_refuses hpart, readTrimmed?_of_refuses hdisk]
    · have hdisk := mt hinherits.refuses_iff.2 hpart
      exact readTrimmed?_congr (locate_diskFile h hkey hpart hdisk)
  rw [diskFile] at hread
  simp only [attribute?, hinherits.lacking, h.marked, h.unmarked, hread]
  cases readTrimmed? t ((node sysfs disk).joinText key) <;> rfl

end BlockDevice

end Hotplug
