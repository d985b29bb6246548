import Hotplug.Proofs.Registry.Agreement
/-!
# Spellings of a path

Two spellings of an absolute path lie on the same device, in either registry, and as seen from a
removable device they are one place (`registries_ignore_spelling`). A path on no removable device is
a fixed device of its own. Its id is the path as it is spelled, so two spellings have two ids
(`fixed_device_keeps_spelling`), but they share the last name of the path, if it has one.
-/

namespace Hotplug

theorem Path.Same.fileName?_eq {p q : Path} (h : p.Same q) : p.fileName? = q.fileName? := by
  rw [fileName?, fileName?, h]

namespace Lookup

section

variable {σ τ : Type} [Registry σ] [Registry τ]

/-- Two registries say the same of two spellings of a path. Only for a fixed device, the id is as the
path is spelled. -/
structure Respelled (s : σ) (s' : τ) (text text' : String) : Prop where
  deviceAt?_eq : Registry.deviceAt? s (.ofString text) = Registry.deviceAt? s' (.ofString text')
  removable_owner : ∀ d, Registry.deviceAt? s (.ofString text) = some d → d.id.isRemovable = true →
    ∃ rest rest', ownerOf? s (.ofString text) = some ⟨d.id, d.name, rest⟩ ∧
      ownerOf? s' (.ofString text') = some ⟨d.id, d.name, rest'⟩ ∧ rest.Same rest'
  fixed_owner : (∀ d, Registry.deviceAt? s (.ofString text) = some d → d.id.isRemovable = false) →
    ∃ name name', ownerOf? s (.ofString text) = some ⟨.make .fixed text, name, .empty⟩ ∧
      ownerOf? s' (.ofString text') = some ⟨.make .fixed text', name', .empty⟩ ∧
      (DeviceId.make .fixed text = .make .fixed text' ↔ text = text') ∧
      (∀ last, (Path.ofString text).fileName? = some last →
        name = Utf8.toStringLossy last ∧ name' = name) ∧
      ((Path.ofString text).fileName? = none → name = text ∧ name' = text')

theorem make_fixed_inj {text text' : String} :
    DeviceId.make .fixed text = .make .fixed text' ↔ text = text' := by
  refine ⟨fun h => ?_, congrArg _⟩
  rw [← DeviceId.uniqueId_make .fixed text, h, DeviceId.uniqueId_make]

theorem fixedOwner_ofString (text : String) :
    fixedOwner (.ofString text) =
      ⟨.make .fixed text,
        (((Path.ofString text).fileName?.map Utf8.toStringLossy).getD text), .empty⟩ := by
  have htext : (Path.ofString text).toStringLossy = text := Utf8.toStringLossy_ofString text
  rw [fixedOwner, htext]

theorem respelled_of_deviceAt? {s : σ} {s' : τ} {text text' : String}
    (habsolute : (Path.ofString text).isAbsolute = true)
    (hsame : (Path.ofString text).Same (.ofString text'))
    (hdevice : Registry.deviceAt? s (.ofString text) = Registry.deviceAt? s' (.ofString text'))
    (hcontains : ∀ d, Registry.deviceAt? s (.ofString text) = some d →
      d.contains (.ofString text) = true) : Respelled s s' text text' := by
  have habsolute' : (Path.ofString text').isAbsolute = true := hsame.isAbsolute_eq ▸ habsolute
  refine ⟨hdevice, fun d hd hremovable => ?_, fun hfixed => ?_⟩
  · obtain ⟨hlocation, hstarts⟩ := AttachedDevice.contains_iff.1 (hcontains d hd)
    obtain ⟨rest, hrest, -⟩ := Path.exists_relativeTo? hlocation hstarts
    obtain ⟨rest', hrest', -⟩ :=
      Path.exists_relativeTo? hlocation (hsame.startsWith_congr d.location ▸ hstarts)
    have howner := ownerOf?_of_deviceAt? habsolute hd hremovable
    have howner' := ownerOf?_of_deviceAt? habsolute' (hdevice ▸ hd) hremovable
    rw [hrest, Option.getD_some] at howner
    rw [hrest', Option.getD_some] at howner'
    exact ⟨rest, rest', howner, howner', hsame.relativeTo? hrest hrest'⟩
  · have howner := ownerOf?_eq_fixedOwner habsolute hfixed
    have howner' := ownerOf?_eq_fixedOwner habsolute' (hdevice ▸ hfixed)
    rw [fixedOwner_ofString] at howner howner'
    refine ⟨_, _, howner, howner', make_fixed_inj, fun last hlast => ?_, fun hnone => ?_⟩
    · rw [← hsame.fileName?_eq, hlast]
      exact ⟨rfl, rfl⟩
    · rw [← hsame.fileName?_eq, hnone]
      exact ⟨rfl, rfl⟩

end

end Lookup

namespace AttachedDevice

variable {ds : List AttachedDevice} {p q : Path}

theorem contains_congr (h : p.Same q) (d : AttachedDevice) : d.contains p = d.contains q := by
  rw [Bool.eq_iff_iff, contains_iff, contains_iff, h.startsWith_congr]

theorem deepest_iff_of_same (h : p.Same q) {d : AttachedDevice} : Deepest ds p d ↔ Deepest ds q d := by
  constructor
  · rintro ⟨hmem, hcontains, hle⟩
    exact ⟨hmem, contains_congr h d ▸ hcontains, fun e he hq => hle e he (contains_congr h e ▸ hq)⟩
  · rintro ⟨hmem, hcontains, hle⟩
    exact ⟨hmem, contains_congr h d ▸ hcontains, fun e he hp => hle e he (contains_congr h e ▸ hp)⟩

/-- No two devices that are mounted are mounted at one place. -/
def PlacesDiffer (ds : List AttachedDevice) : Prop :=
  ∀ d ∈ ds, ∀ e ∈ ds, d.location.bytes ≠ [] → d.location.Same e.location → d = e

instance (ds : List AttachedDevice) : Decidable (PlacesDiffer ds) :=
  List.decidableBAll _ ds

theorem PlacesDiffer.depthsDiffer (h : PlacesDiffer ds) (p : Path) : DepthsDiffer ds p := by
  intro d hd e he hdp hep hdepth
  obtain ⟨hlocation, hstarts⟩ := contains_iff.1 hdp
  exact h d hd e he hlocation
    (Path.same_of_startsWith hstarts (contains_iff.1 hep).2 hdepth)

end AttachedDevice

open AttachedDevice (PlacesDiffer)

theorem MountRegistry.deviceAt?_eq_of_same (r : MountRegistry) {p q : Path} (h : p.Same q) :
    r.deviceAt? p = r.deviceAt? q := by
  have hpoints : r.points.filter p.startsWith = r.points.filter q.startsWith :=
    List.filter_congr fun point _ => h.startsWith_congr point
  rw [deviceAt?, deviceAt?, hpoints]

theorem MemoryRegistry.deviceAt?_eq_of_same {ds : List AttachedDevice} (hds : PlacesDiffer ds)
    {m m' : MemoryRegistry} (hm : m.devices.Perm ds) (hm' : m'.devices.Perm ds) {p q : Path}
    (h : p.Same q) : Registry.deviceAt? m p = Registry.deviceAt? m' q := by
  have hdiffer : AttachedDevice.DepthsDiffer m.devices p := (hds.depthsDiffer p).perm hm.symm
  have hdiffer' : AttachedDevice.DepthsDiffer m'.devices q := (hds.depthsDiffer q).perm hm'.symm
  ext d
  calc Registry.deviceAt? m p = some d
    _ ↔ AttachedDevice.Deepest m.devices p d :=
      AttachedDevice.deepestContaining?_eq_some_iff hdiffer
    _ ↔ AttachedDevice.Deepest m'.devices q d :=
      (AttachedDevice.deepest_congr (hm.trans hm'.symm)).trans (AttachedDevice.deepest_iff_of_same h)
    _ ↔ Registry.deviceAt? m' q = some d :=
      (AttachedDevice.deepestContaining?_eq_some_iff hdiffer').symm

/-- Either registry, whatever has happened to it, says the same of two spellings of an absolute path,
but for the id of a fixed device, and for its name if the path ends in none. -/
theorem registries_ignore_spelling {text text' : String}
    (habsolute : (Path.ofString text).isAbsolute = true)
    (hsame : (Path.ofString text).Same (.ofString text')) :
    (∀ config xs, Lookup.Respelled (MountRegistry.after config xs) (MountRegistry.after config xs)
        text text') ∧
      ∀ capacity cs, PlacesDiffer (Registry.attached (MemoryRegistry.after capacity cs)) →
        ∀ m m' : MemoryRegistry,
          m.devices.Perm (Registry.attached (MemoryRegistry.after capacity cs)) →
          m'.devices.Perm (Registry.attached (MemoryRegistry.after capacity cs)) →
          Lookup.Respelled m m' text text' := by
  refine ⟨fun config xs => ?_, fun capacity cs hplaces m m' hm hm' => ?_⟩
  · refine Lookup.respelled_of_deviceAt? habsolute hsame
      (MountRegistry.deviceAt?_eq_of_same _ hsame) fun d hd => ?_
    obtain ⟨hmem, hstarts⟩ := MountRegistry.mem_of_deviceAt? hd
    exact AttachedDevice.contains_iff.2 ⟨MountRegistry.bytes_location_ne_nil hmem, hstarts⟩
  · refine Lookup.respelled_of_deviceAt? habsolute hsame
      (MemoryRegistry.deviceAt?_eq_of_same hplaces hm hm' hsame) fun d hd => ?_
    exact (AttachedDevice.deepest_of_deepestContaining? hd).contains

theorem registries_ignore_spelling_nested :
    let r := MountRegistry.after MountRegistry.plainConfig
      [⟨MountRegistry.plainTree "/dev/sdb //u/. vfat rw 0 0\n" [("sdb", "1\n")], ⟨10, 0⟩⟩]
    let m := MemoryRegistry.after 4 MemoryRegistry.nestedCalls
    let m' : MemoryRegistry := ⟨m.entries.reverse, m.events⟩
    let text := "/m//c/./a"
    let text' := "//m/c/a//."
    (Path.ofString text).isAbsolute = true ∧ (Path.ofString text).Same (.ofString text') ∧
      PlacesDiffer (Registry.attached m) ∧
      Lookup.Respelled m m' text text' ∧
      (Registry.deviceAt? m (.ofString text)).map (·.name) = some "Camera" ∧
      (Path.ofString "/u//a").Same (.ofString "/./u/a/") ∧
      Lookup.Respelled r r "/u//a" "/./u/a/" ∧
      (Registry.deviceAt? r (.ofString "/u//a")).map (·.name) = some "sdb" := by
  intro r m m' text text'
  have habsolute : (Path.ofString text).isAbsolute = true := by decide
  have hsame : (Path.ofString text).Same (.ofString text') := by decide +kernel
  have hplaces : PlacesDiffer (Registry.attached m) := by decide +kernel
  have hsame' : (Path.ofString "/u//a").Same (.ofString "/./u/a/") := by decide +kernel
  obtain ⟨-, hmemory⟩ := registries_ignore_spelling habsolute hsame
  obtain ⟨hmounts, -⟩ := registries_ignore_spelling (by decide) hsame'
  exact ⟨habsolute, hsame, hplaces,
    hmemory 4 MemoryRegistry.nestedCalls hplaces m m' (.refl _)
      ((List.reverse_perm m.entries).map Prod.snd),
    by decide +kernel, hsame', hmounts _ _, by decide +kernel⟩

/-- A path on no device at all: with another slash behind it the id is another one, and the root is
named as it is spelled. -/
theorem fixed_device_keeps_spelling :
    let m := MemoryRegistry.after 4 []
    let r := MountRegistry.after MountRegistry.plainConfig []
    let idOf (text : String) := (Lookup.ownerOf? m (.ofString text)).map (·.id.text)
    let nameOf (text : String) := (Lookup.ownerOf? r (.ofString text)).map (·.name)
    (Path.ofString "/a").Same (.ofString "/a/") ∧ (Path.ofString "/").Same (.ofString "//") ∧
      idOf "/a" = some "path:/a" ∧ idOf "/a/" = some "path:/a/" ∧
      nameOf "/" = some "/" ∧ nameOf "//" = some "//" := by
  decide +kernel

end Hotplug
