import Hotplug.BlockDevice
import Hotplug.MountTable
import Hotplug.Proofs.FileTree.Slash
import Hotplug.Proofs.Path.FileName
import Hotplug.Proofs.Text.HexEscape
/-!
# Names of block devices

What is known of a block device by its name alone: the name is that of one entry of a directory, so
that the directory of the device is a child of that of all devices (`components_node`), and nothing
that links or attributes say of it is empty. If the names of the links are encoded in one way, two
devices never share the name of a link (`linkName?_inj`).
-/

namespace Hotplug

theorem Path.bytes_join_ne_nil {p rest : Path} (h : rest.bytes ≠ []) :
    (p.join rest).bytes ≠ [] := by
  rw [join]
  split
  · exact h
  · split <;> simp [h]

theorem Mount.ordinary_of_blockName? {m : Mount} {t : FileTree} {block : String}
    (h : m.blockName? t = some block) : Path.Ordinary block := by
  rw [blockName?] at h
  obtain ⟨n, hn, hblock⟩ := Option.bind_eq_some_iff.1 h
  exact Path.ordinary_of_fileName? hn hblock

namespace BlockDevice

theorem components_node {block : String} (h : Path.Ordinary block) (sysfs : Path) :
    (node sysfs block).components =
      (sysfs.joinText "class/block").components ++ [.name (Utf8.ofString block)] :=
  Path.components_joinText (Path.bytes_join_ne_nil (by decide)) h

section Attribute

variable {t : FileTree} {sysfs p : Path} {block key value : String}

theorem readTrimmed?_ne_empty (h : readTrimmed? t p = some value) : value ≠ "" := by
  rw [readTrimmed?] at h
  split at h
  next => contradiction
  next text _ =>
    simp only at h
    split at h
    next => contradiction
    next hne =>
      rw [← Option.some.inj h, ne_eq, String.ofList_eq_empty_iff]
      exact hne

theorem attribute?_ne_empty (h : attribute? t sysfs block key = some value) : value ≠ "" := by
  rw [attribute?] at h
  split at h
  next own hown => exact readTrimmed?_ne_empty (hown.trans h)
  next =>
    split at h
    next => exact readTrimmed?_ne_empty h
    next => contradiction

end Attribute

section Link

variable {t : FileTree} {dir : Path} {block text : String} {name : Name}

theorem eq_of_link? (h : link? t dir name = some (block, text)) :
    text = String.ofList (Escape.hex (Utf8.decodeLossy name)) ∧
      (t.readLink? (dir.join ⟨name⟩)).isSome = true := by
  rw [link?] at h
  obtain ⟨target, htarget, h⟩ := Option.bind_eq_some_iff.1 h
  obtain ⟨block', -, h⟩ := Option.bind_eq_some_iff.1 h
  obtain ⟨-, htext⟩ := Prod.mk.inj (Option.some.inj h)
  exact ⟨htext.symm, by rw [htarget]; rfl⟩

theorem exists_link?_of_linkName? (h : linkName? t dir block = some text) :
    ∃ name ∈ t.list dir, link? t dir name = some (block, text) := by
  obtain ⟨before, behind, hlinks, -⟩ := List.lookup_eq_some_iff.1 h
  have hmem : (block, text) ∈ links t dir := by
    rw [← List.mem_reverse, hlinks]
    exact List.mem_append_right _ List.mem_cons_self
  exact List.mem_filterMap.1 hmem

theorem linkName?_ne_empty (h : linkName? t dir block = some text) : text ≠ "" := by
  obtain ⟨name, -, hlink⟩ := exists_link?_of_linkName? h
  obtain ⟨rfl, hsome⟩ := eq_of_link? hlink
  obtain ⟨target, htarget⟩ := Option.isSome_iff_exists.1 hsome
  rw [ne_eq, String.ofList_eq_empty_iff]
  exact Escape.hex_ne_nil (Utf8.decodeLossy_ne_nil (FileTree.ne_nil_of_readLink? htarget))

/-- The links in a directory are named by texts, in which some characters are always escaped and
all others never. -/
def EncodedLinks (escaped : List Char) (t : FileTree) (dir : Path) : Prop :=
  ∀ name ∈ t.list dir, (t.readLink? (dir.join ⟨name⟩)).isSome = true →
    ∃ s : List Char, name = Utf8.encode (Escape.writeHex (s.map fun c => (c, escaped.contains c)))

theorem hex_name_inj {escaped : List Char} (hescaped : '\\' ∈ escaped) {s u : List Char}
    (h : Escape.hex (Escape.writeHex (s.map fun c => (c, escaped.contains c))) =
      Escape.hex (Escape.writeHex (u.map fun c => (c, escaped.contains c)))) : s = u := by
  have hback (s : List Char) :
      Escape.hex (Escape.writeHex (s.map fun c => (c, escaped.contains c))) = s := by
    rw [Escape.hex]
    exact Escape.undoes_unescapeHex.decodeLossy_read_of_mem hescaped (Escape.writing_writeHex _)
  rw [← hback s, h, hback u]

theorem linkName?_inj {escaped : List Char} (hescaped : '\\' ∈ escaped)
    (hlinks : EncodedLinks escaped t dir) {b c : String} (hb : linkName? t dir b = some text)
    (hc : linkName? t dir c = some text) : b = c := by
  obtain ⟨m, hm, hmlink⟩ := exists_link?_of_linkName? hb
  obtain ⟨n, hn, hnlink⟩ := exists_link?_of_linkName? hc
  obtain ⟨hmtext, hmsome⟩ := eq_of_link? hmlink
  obtain ⟨hntext, hnsome⟩ := eq_of_link? hnlink
  obtain ⟨s, rfl⟩ := hlinks m hm hmsome
  obtain ⟨u, rfl⟩ := hlinks n hn hnsome
  rw [Utf8.decodeLossy_encode] at hmtext hntext
  -- One text has one name, and a name is one link, which leads to one device.
  have hsu : s = u := hex_name_inj hescaped (String.ofList_inj.1 (hmtext.symm.trans hntext))
  rw [hsu, hnlink] at hmlink
  exact (congrArg Prod.fst (Option.some.inj hmlink)).symm

end Link

end BlockDevice

end Hotplug
