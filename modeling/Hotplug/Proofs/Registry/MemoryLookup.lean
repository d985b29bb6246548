import Hotplug.Proofs.Registry.Lookup
import Hotplug.Proofs.Registry.Roll
/-!
# From a path to its device and back, in memory

The device that a path lies on is the deepest one whose location contains it, if there is one at each
depth at most (`deepestContaining?_eq_some_iff`). Ids are unique in memory, so the id of the holder of
a path always leads to the place from which the path is found again. A fixed device is not the holder
of a path: the path is then a device of its own, which leads back to itself (`holder_leads_back`).
-/

namespace Hotplug

namespace Lookup

section

variable {σ : Type} [Registry σ] {s : σ} {p : Path}

theorem ownerOf?_eq_fixedOwner (hp : p.isAbsolute = true)
    (h : ∀ d, Registry.deviceAt? s p = some d → d.id.isRemovable = false) :
    ownerOf? s p = some (fixedOwner p) := by
  have hnone : (Registry.deviceAt? s p).filter (·.id.isRemovable) = none := by
    cases hd : Registry.deviceAt? s p with
    | none => rfl
    | some d => simp [Option.filter_some, h d hd]
  rw [ownerOf?, if_pos hp, hnone]

theorem isRemovable_fixedOwner (p : Path) : (fixedOwner p).id.isRemovable = false := by
  rw [fixedOwner, DeviceId.isRemovable, DeviceId.kind_make]
  rfl

theorem id_fixedOwner (text : String) :
    (fixedOwner (.ofString text)).id = .make .fixed text := by
  have htext : (Path.ofString text).toStringLossy = text := Utf8.toStringLossy_ofString text
  rw [fixedOwner, htext]

theorem pathOf?_fixedOwner (s : σ) (text : String) :
    pathOf? s (fixedOwner (.ofString text)).id.text = .ok (some (.ofString text)) := by
  rw [id_fixedOwner, pathOf?_eq, pathOfId?_of_fixed s (DeviceId.kind_make ..),
    DeviceId.uniqueId_make]

end

end Lookup

namespace AttachedDevice

theorem contains_iff {d : AttachedDevice} {p : Path} :
    d.contains p = true ↔ d.location.bytes ≠ [] ∧ p.startsWith d.location = true := by
  simp [contains]

/-- Of the devices that contain a path the one that lies deepest. -/
structure Deepest (ds : List AttachedDevice) (p : Path) (d : AttachedDevice) : Prop where
  mem : d ∈ ds
  contains : d.contains p = true
  depth_le : ∀ e ∈ ds, e.contains p = true → e.location.depth ≤ d.location.depth

/-- No two devices contain a path at one depth. -/
def DepthsDiffer (ds : List AttachedDevice) (p : Path) : Prop :=
  ∀ d ∈ ds, ∀ e ∈ ds, d.contains p = true → e.contains p = true →
    d.location.depth = e.location.depth → d = e

instance (ds : List AttachedDevice) (p : Path) : Decidable (DepthsDiffer ds p) :=
  List.decidableBAll _ ds

section Deepest

variable {ds : List AttachedDevice} {p : Path} {d : AttachedDevice}

theorem deepest_of_deepestContaining? (h : deepestContaining? ds p = some d) : Deepest ds p d where
  mem := (List.mem_filter.1 (mem_of_lastMax? h)).1
  contains := (List.mem_filter.1 (mem_of_lastMax? h)).2
  depth_le e he hp := le_of_lastMax? h e (List.mem_filter.2 ⟨he, hp⟩)

theorem Deepest.eq (hds : DepthsDiffer ds p) {e : AttachedDevice} (hd : Deepest ds p d)
    (he : Deepest ds p e) : d = e := by
  have hle := he.depth_le d hd.mem hd.contains
  have hge := hd.depth_le e he.mem he.contains
  exact hds d hd.mem e he.mem hd.contains he.contains (by omega)

theorem deepestContaining?_eq_some_iff (hds : DepthsDiffer ds p) :
    deepestContaining? ds p = some d ↔ Deepest ds p d := by
  constructor
  · exact deepest_of_deepestContaining?
  · intro hd
    have hmem : d ∈ ds.filter (·.contains p) := List.mem_filter.2 ⟨hd.mem, hd.contains⟩
    cases he : deepestContaining? ds p with
    | none =>
      rw [deepestContaining?, lastMax?_eq_none] at he
      rw [he] at hmem
      contradiction
    | some e => rw [(deepest_of_deepestContaining? he).eq hds hd]

end Deepest

end AttachedDevice

namespace MemoryRegistry

open AttachedDevice (Deepest DepthsDiffer)

theorem locationOf?_of_mem {capacity : Nat} {cs : List Call} {d : AttachedDevice}
    (hd : d ∈ Registry.attached (after capacity cs)) :
    Registry.locationOf? (after capacity cs) d.id.text = some d.location := by
  have hholds := (holds_after capacity cs).1
  have hfind : (Registry.attached (after capacity cs)).find? (·.id.text = d.id.text) = some d :=
    (find?_eq_some_iff_of_nodup hholds.nodup).2 ⟨hd, rfl⟩
  rw [hholds.locationOf?_eq (.refl _), hfind, Option.map_some]

/-- The holder of an absolute path that is a text, and the way back: its id leads to a place from
which the path is found again. The holder is removable exactly if the deepest device that contains
the path is, and is then that device; otherwise it is the path itself, as it is spelled. -/
theorem holder_leads_back (capacity : Nat) (cs : List Call) (text : String)
    (hp : (Path.ofString text).isAbsolute = true) :
    let r := after capacity cs
    let p := Path.ofString text
    ∃ o L, Lookup.ownerOf? r p = some o ∧ Lookup.pathOf? r o.id.text = .ok (some L) ∧
      (L.join o.relativePath).Same p ∧
      (o.id.isRemovable = true → ∃ d, Deepest (Registry.attached r) p d ∧ d.id = o.id ∧
        d.name = o.name) ∧
      (o.id.isRemovable = false → o.id.text = "path:" ++ text) ∧
      (DepthsDiffer (Registry.attached r) p →
        (o.id.isRemovable = true ↔
          ∃ d, Deepest (Registry.attached r) p d ∧ d.id.isRemovable = true)) := by
  intro r p
  have hnonempty : p.bytes ≠ [] := by
    intro hnil
    simp [p, Path.isAbsolute, hnil] at hp
  by_cases hdevice : ∃ d, Registry.deviceAt? r p = some d ∧ d.id.isRemovable = true
  · obtain ⟨d, hd, hremovable⟩ := hdevice
    have hdeepest : Deepest (Registry.attached r) p d :=
      AttachedDevice.deepest_of_deepestContaining? hd
    obtain ⟨hlocation, hcontains⟩ := AttachedDevice.contains_iff.1 hdeepest.contains
    obtain ⟨rest, hrest, hrelative, hsteps⟩ := Path.exists_relativeTo? hlocation hcontains
    have howner := Lookup.ownerOf?_of_deviceAt? hp hd hremovable
    rw [hrest, Option.getD_some] at howner
    have hback : Lookup.pathOf? r d.id.text = .ok (some d.location) := by
      rw [Lookup.pathOf?_text hremovable, locationOf?_of_mem hdeepest.mem]
    refine ⟨_, d.location, howner, hback, (Path.join_same_iff hlocation hrelative hsteps).2 (.refl _),
      fun _ => ⟨d, hdeepest, rfl, rfl⟩, fun hfixed => ?_, fun _ => ?_⟩
    · simp [hremovable] at hfixed
    · exact ⟨fun _ => ⟨d, hdeepest, hremovable⟩, fun _ => hremovable⟩
  · have hfixed : ∀ d, Registry.deviceAt? r p = some d → d.id.isRemovable = false := by
      intro d hd
      by_contra hne
      exact hdevice ⟨d, hd, by simpa using hne⟩
    have hremovable := Lookup.isRemovable_fixedOwner p
    refine ⟨Lookup.fixedOwner p, p, Lookup.ownerOf?_eq_fixedOwner hp hfixed,
      Lookup.pathOf?_fixedOwner r text, Path.join_empty_same hnonempty, fun h => ?_, fun _ => ?_,
      fun hdiffer => ?_⟩
    · simp [hremovable] at h
    · rw [Lookup.id_fixedOwner, DeviceId.text_make]
      rfl
    · rw [hremovable]
      refine ⟨fun h => absurd h Bool.false_ne_true, ?_⟩
      rintro ⟨d, hdeepest, hd⟩
      have hat : Registry.deviceAt? r p = some d :=
        (AttachedDevice.deepestContaining?_eq_some_iff hdiffer).2 hdeepest
      exact absurd ⟨d, hat, hd⟩ hdevice

/-- A phone without a location, a stick, a camera mounted inside the stick, and a fixed disk mounted
inside the camera. -/
def nestedCalls : List Call :=
  [.attach ⟨.make .mtp "usb:2,5", "Phone", .empty, ⟨10, 0⟩⟩,
    .attach ⟨.make .withoutDcim "UUID:1", "Stick", .ofString "/m/", ⟨20, 0⟩⟩,
    .attach ⟨.make .withDcim "UUID:2", "Camera", .ofString "//m/c/.", ⟨30, 0⟩⟩,
    .attach ⟨.make .fixed "/m/c/d", "Disk", .ofString "/m/c/d", ⟨40, 0⟩⟩]

theorem holder_leads_back_nested :
    let r := after 4 nestedCalls
    let p := Path.ofString "/m//c/./a"
    let q := Path.ofString "/m/c/d/b"
    (∃ o L, Lookup.ownerOf? r p = some o ∧ Lookup.pathOf? r o.id.text = .ok (some L) ∧
        (L.join o.relativePath).Same p ∧ (∃ d, Deepest (Registry.attached r) p d ∧ d.id = o.id) ∧
        DepthsDiffer (Registry.attached r) p ∧
        ∃ d, Deepest (Registry.attached r) p d ∧ d.id.isRemovable = true) ∧
      ∃ o, Lookup.ownerOf? r q = some o ∧ o.id.isRemovable = false ∧
        o.id.text = "path:/m/c/d/b" := by
  intro r p q
  obtain ⟨o, L, ho, hL, hback, hdeepest, -, hiff⟩ :=
    holder_leads_back 4 nestedCalls "/m//c/./a" (by decide)
  obtain ⟨o', -, ho', -, -, -, hfixed, -⟩ :=
    holder_leads_back 4 nestedCalls "/m/c/d/b" (by decide)
  have hremovable : o.id.isRemovable = true := by
    have hall : (Lookup.ownerOf? r p).all (·.id.isRemovable) = true := by decide +kernel
    rwa [ho] at hall
  have hremovable' : o'.id.isRemovable = false := by
    have hall : (Lookup.ownerOf? r q).all (!·.id.isRemovable) = true := by decide +kernel
    rw [ho'] at hall
    simpa using hall
  have hdiffer : DepthsDiffer (Registry.attached r) p := by decide +kernel
  obtain ⟨d, hd, hid, -⟩ := hdeepest hremovable
  exact ⟨⟨o, L, ho, hL, hback, ⟨d, hd, hid⟩, hdiffer, (hiff hdiffer).1 hremovable⟩, o', ho',
    hremovable', hfixed hremovable'⟩

end MemoryRegistry

end Hotplug
