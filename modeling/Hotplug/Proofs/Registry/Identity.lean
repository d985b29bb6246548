import Hotplug.Proofs.Registry.Records
/-!
# One unique id for each block device

The unique id of a block device is the name of its file system or its own name, and the two are told
apart by what they start with. So block devices that differ have unique ids that differ
(`uniqueIdOf_inj`), provided that the links that name file systems are encoded in one way. A record
has the unique id that its block device has now, however old it is, so two records share a unique id
exactly if one block device is mounted at both places (`identity_is_faithful`).
-/

namespace Hotplug.MountRegistry

open BlockDevice (linkName? EncodedLinks)

theorem uuid_ne_dev (a b : String) : "UUID:" ++ a ≠ "DEV:" ++ b := by
  intro h
  have hlist := congrArg String.toList h
  simp at hlist

theorem uniqueIdOf_inj {config : Config} {t : FileTree} {escaped : List Char}
    (hescaped : '\\' ∈ escaped) (hlinks : EncodedLinks escaped t config.diskByUuidPath)
    {b c : String} (h : uniqueIdOf config t b = uniqueIdOf config t c) : b = c := by
  rcases uniqueIdOf_cases config t b with ⟨u, hu, hb⟩ | hb <;>
    rcases uniqueIdOf_cases config t c with ⟨v, hv, hc⟩ | hc <;> rw [hb, hc] at h
  · obtain rfl : u = v := (String.append_right_inj _).1 h
    exact BlockDevice.linkName?_inj hescaped hlinks hu hv
  · exact absurd h (uuid_ne_dev u c)
  · exact absurd h.symm (uuid_ne_dev v b)
  · exact (String.append_right_inj _).1 h

/-- Two records have one unique id exactly if one block device decides both their places, so devices
that differ never share an id. -/
theorem identity_is_faithful (config : Config) (xs : List Reading) {t : FileTree} {now : Instant}
    {events : List Event} {r : MountRegistry}
    (hr : (after config xs).refresh t now = .ok (events, r)) {escaped : List Char}
    (hescaped : '\\' ∈ escaped) (hlinks : EncodedLinks escaped t config.diskByUuidPath) :
    ∀ d ∈ Registry.attached r, ∀ e ∈ Registry.attached r, ∃ b c,
      blockAt? config t d.location = some b ∧ blockAt? config t e.location = some c ∧
        (d.id.uniqueId = e.id.uniqueId ↔ b = c) ∧ (d.id = e.id → b = c) := by
  intro d hd e he
  have htracks := (tracks_after config xs).refresh hr
  obtain ⟨_, b, ⟨⟩, hb, hdid⟩ := htracks.exists_blockAt? hd
  obtain ⟨_, c, ⟨⟩, hc, heid⟩ := htracks.exists_blockAt? he
  have hiff : d.id.uniqueId = e.id.uniqueId ↔ b = c := by
    rw [hdid, heid]
    constructor
    · exact uniqueIdOf_inj hescaped hlinks
    · rintro rfl
      rfl
  exact ⟨b, c, hb, hc, hiff, fun hid => hiff.1 (by rw [hid])⟩

/-- A disk with a blank in the name of its file system is mounted twice, beside a disk without a
file system of its own whose name is the same text; one of the records is older. -/
theorem identity_is_faithful_linked :
    let disks := [("sdb", "1\n"), ("A B", "1\n")]
    let links := [("A\\x20B", "../sdb")]
    let first := linkedTree "/dev/sdb /u vfat rw 0 0\n" disks links
    let t := linkedTree
      "/dev/sdb /u vfat rw 0 0\n/dev/A\\040B /v vfat rw 0 0\n/dev/sdb /w vfat rw 0 0\n" disks links
    EncodedLinks ['\\', ' '] t plainConfig.diskByUuidPath ∧
      ∃ events r, (after plainConfig [⟨first, ⟨10, 0⟩⟩]).refresh t ⟨20, 0⟩ = .ok (events, r) ∧
        (Registry.attached r).map (·.id.uniqueId) = ["UUID:A B", "DEV:A B", "UUID:A B"] ∧
        ∀ d ∈ Registry.attached r, ∀ e ∈ Registry.attached r, ∃ b c,
          blockAt? plainConfig t d.location = some b ∧ blockAt? plainConfig t e.location = some c ∧
            (d.id.uniqueId = e.id.uniqueId ↔ b = c) := by
  intro disks links first t
  have hlinks : EncodedLinks ['\\', ' '] t plainConfig.diskByUuidPath := by
    have hlist : t.list plainConfig.diskByUuidPath = [Utf8.ofString "A\\x20B"] := by decide +kernel
    intro name hname _
    rw [hlist, List.mem_singleton] at hname
    exact ⟨"A B".toList, by rw [hname]; decide⟩
  have hread : t.readText (after plainConfig [⟨first, ⟨10, 0⟩⟩]).config.mountsPath =
      .ok "/dev/sdb /u vfat rw 0 0\n/dev/A\\040B /v vfat rw 0 0\n/dev/sdb /w vfat rw 0 0\n" := by
    decide +kernel
  obtain ⟨events, r, hr⟩ := exists_refresh_eq_ok hread ⟨20, 0⟩
  have hafter : after plainConfig [⟨first, ⟨10, 0⟩⟩, ⟨t, ⟨20, 0⟩⟩] = r := by
    rw [← List.singleton_append, after_concat, attempt, hr]
  have hids : (Registry.attached r).map (·.id.uniqueId) = ["UUID:A B", "DEV:A B", "UUID:A B"] := by
    rw [← hafter]
    decide +kernel
  refine ⟨hlinks, events, r, hr, hids, fun d hd e he => ?_⟩
  obtain ⟨b, c, hb, hc, hiff, -⟩ :=
    identity_is_faithful plainConfig _ hr (by decide) hlinks d hd e he
  exact ⟨b, c, hb, hc, hiff⟩

end Hotplug.MountRegistry
