import Hotplug.Lookup
import Hotplug.Proofs.Registry.Records
/-!
# From a path to its device and back

The deepest mount points that contain a path are one place, and the device attached there holds the
path. The path as seen from the device leads back to it from the location of the device
(`longest_mount_decides`). An id leads to the first location where it is attached, so the way back by
the id ends at the path exactly if no mount of the device is listed before the one that holds the
path (`owner_leads_back_iff`). A disk that is mounted twice shows why
(`second_mount_does_not_lead_back`).
-/

namespace Hotplug

namespace Lookup

section

variable {σ : Type} [Registry σ] {s : σ} {p : Path}

theorem ownerOf?_of_deviceAt? {d : AttachedDevice} (hp : p.isAbsolute = true)
    (hd : Registry.deviceAt? s p = some d) (hremovable : d.id.isRemovable = true) :
    ownerOf? s p = some ⟨d.id, d.name, (p.relativeTo? d.location).getD .empty⟩ := by
  simp [ownerOf?, hp, hd, Option.filter_some, hremovable]

theorem ownerOf?_of_deviceAt?_none (hp : p.isAbsolute = true)
    (hd : Registry.deviceAt? s p = none) : ownerOf? s p = some (fixedOwner p) := by
  simp [ownerOf?, hp, hd]

theorem exists_of_ownerOf? {o : PathOwner} (ho : ownerOf? s p = some o)
    (hremovable : o.id.isRemovable = true) :
    ∃ d, Registry.deviceAt? s p = some d ∧ d.id.isRemovable = true ∧ p.isAbsolute = true ∧
      o = ⟨d.id, d.name, (p.relativeTo? d.location).getD .empty⟩ := by
  unfold ownerOf? at ho
  split at ho
  next habsolute =>
    split at ho
    next d hd =>
      obtain ⟨hd, hid⟩ := Option.filter_eq_some_iff.1 hd
      exact ⟨d, hd, hid, habsolute, (Option.some.inj ho).symm⟩
    next =>
      obtain rfl := Option.some.inj ho
      simp [fixedOwner, DeviceId.isRemovable, DeviceKind.isRemovable] at hremovable
  next => contradiction

theorem pathOf?_eq (s : σ) (id : DeviceId) : pathOf? s id.text = .ok (pathOfId? s id) := by
  rw [pathOf?, DeviceId.trusted_text]
  rfl

theorem pathOfId?_of_fixed (s : σ) {id : DeviceId} (h : id.kind = .fixed) :
    pathOfId? s id = some (.ofString id.uniqueId) := by
  rw [pathOfId?, h]

theorem pathOfId?_of_ne_fixed (s : σ) {id : DeviceId} (h : id.kind ≠ .fixed) :
    pathOfId? s id = Registry.locationOf? s id.text := by
  unfold pathOfId?
  split
  next hfixed => exact absurd hfixed h
  next => rfl

theorem pathOf?_text {id : DeviceId} (hremovable : id.isRemovable = true) :
    pathOf? s id.text = .ok (Registry.locationOf? s id.text) := by
  have hkind : id.kind ≠ .fixed := by
    intro hfixed
    simp [DeviceId.isRemovable, hfixed, DeviceKind.isRemovable] at hremovable
  rw [pathOf?_eq, pathOfId?_of_ne_fixed s hkind]

end

end Lookup

namespace MountRegistry

theorem locationOf?_text (r : MountRegistry) (id : DeviceId) :
    Registry.locationOf? r id.text =
      ((Registry.attached r).find? (·.id = id)).map (·.location) := by
  have htext : ∀ d : AttachedDevice, decide (d.id.text = id.text) = decide (d.id = id) :=
    fun d => decide_eq_decide.2 DeviceId.text_inj
  change ((Registry.attached r).find? _).map _ = _
  simp only [htext]

theorem mem_of_deviceAt? {r : MountRegistry} {p : Path} {d : AttachedDevice}
    (h : r.deviceAt? p = some d) : d ∈ r.devices ∧ p.startsWith d.location = true := by
  obtain ⟨L, hL, hd⟩ := Option.bind_eq_some_iff.1 h
  have hcontains : p.startsWith L = true := (List.mem_filter.1 (mem_of_lastMax? hL)).2
  exact ⟨mem_of_recordAt? hd, by rw [(same_of_recordAt? hd).startsWith_eq, hcontains]⟩

/-- The mount points that contain a path, of the table that was read last. -/
def pointsOver (config : Config) (xs : List Reading) (p : Path) : List Path :=
  ((lastRead config xs).elim [] fun t => (table config t).map (·.point)).filter p.startsWith

theorem deviceAt?_after (config : Config) (xs : List Reading) (p : Path) :
    Registry.deviceAt? (after config xs) p =
      (lastMax? Path.depth (pointsOver config xs p)).bind
        (recordAt? (after config xs).devices) := by
  change deviceAt? _ _ = _
  rw [deviceAt?, (tracks_after config xs).points_eq, pointsOver]

theorem deviceAt?_of_pointsOver_nil {config : Config} {xs : List Reading} {p : Path}
    (h : pointsOver config xs p = []) : Registry.deviceAt? (after config xs) p = none := by
  rw [deviceAt?_after, h]
  rfl

theorem exists_deepest {config : Config} {xs : List Reading} {p : Path}
    (h : pointsOver config xs p ≠ []) :
    ∃ L ∈ pointsOver config xs p,
      (∀ q ∈ pointsOver config xs p, q.depth ≤ L.depth ∧ (q.depth = L.depth → q.Same L)) ∧
      ∀ d, Registry.deviceAt? (after config xs) p = some d ↔
        d ∈ Registry.attached (after config xs) ∧ d.location.Same L := by
  obtain ⟨L, hL⟩ := Option.ne_none_iff_exists'.1 (mt lastMax?_eq_none.1 h)
  have hmem := mem_of_lastMax? hL
  refine ⟨L, hmem, fun q hq => ⟨le_of_lastMax? hL q hq, fun hdepth => ?_⟩, fun d => ?_⟩
  · exact Path.same_of_startsWith (List.mem_filter.1 hq).2 (List.mem_filter.1 hmem).2 hdepth
  · rw [deviceAt?_after, hL, Option.bind_some]
    exact recordAt?_eq_some_iff (tracks_after config xs).ascending

theorem exists_relative {config : Config} {xs : List Reading} {p : Path} {d : AttachedDevice}
    (hp : p.isAbsolute = true) (hd : Registry.deviceAt? (after config xs) p = some d) :
    ∃ rest, Lookup.ownerOf? (after config xs) p = some ⟨d.id, d.name, rest⟩ ∧
      rest.isAbsolute = false ∧ p.components = d.location.components ++ rest.steps := by
  obtain ⟨hmem, hcontains⟩ := mem_of_deviceAt? hd
  obtain ⟨rest, hrest, habsolute, hsteps⟩ :=
    Path.exists_relativeTo? (bytes_location_ne_nil hmem) hcontains
  refine ⟨rest, ?_, habsolute, hsteps⟩
  rw [Lookup.ownerOf?_of_deviceAt? hp hd (isRemovable_of_mem_after hmem), hrest, Option.getD_some]

/-- The deepest mount points over a path are one place up to spelling, and the device attached there
is the answer for the path. An absolute path is then found again from the location of the device. A
path without an answer is a fixed device of its own. -/
theorem longest_mount_decides (config : Config) (xs : List Reading) (p : Path) :
    let r := after config xs
    let points := pointsOver config xs p
    (points = [] → Registry.deviceAt? r p = none) ∧
      (points ≠ [] → ∃ L ∈ points,
        (∀ q ∈ points, q.depth ≤ L.depth ∧ (q.depth = L.depth → q.Same L)) ∧
        ∀ d, Registry.deviceAt? r p = some d ↔
          d ∈ Registry.attached r ∧ d.location.Same L) ∧
      (p.isAbsolute = true → ∀ d, Registry.deviceAt? r p = some d →
        ∃ rest, Lookup.ownerOf? r p = some ⟨d.id, d.name, rest⟩ ∧
          rest.isAbsolute = false ∧ (d.location.join rest).Same p) ∧
      (p.isAbsolute = true → Registry.deviceAt? r p = none → ∀ text, p = .ofString text →
        ∃ o, Lookup.ownerOf? r p = some o ∧ o.id.text = "path:" ++ text ∧
          o.relativePath = .empty) := by
  intro r points
  refine ⟨deviceAt?_of_pointsOver_nil, exists_deepest, fun hp d hd => ?_,
    fun hp hd text htext => ?_⟩
  · obtain ⟨rest, howner, habsolute, hsteps⟩ := exists_relative hp hd
    have hlocation := bytes_location_ne_nil (mem_of_deviceAt? hd).1
    exact ⟨rest, howner, habsolute, (Path.join_same_iff hlocation habsolute hsteps).2 (.refl _)⟩
  · refine ⟨_, Lookup.ownerOf?_of_deviceAt?_none hp hd, ?_, rfl⟩
    rw [Lookup.fixedOwner, htext, Path.toStringLossy, Path.ofString, Utf8.toStringLossy_ofString]
    rfl

theorem longest_mount_respelled :
    let t := plainTree "/dev/sdb //u/. vfat rw 0 0\n/dev/sda /u/n ext4 rw 0 0\n"
      [("sdb", "1\n"), ("sda", "0\n")]
    let xs : List Reading := [⟨t, ⟨10, 0⟩⟩]
    let r := after plainConfig xs
    let p := Path.ofString "/u/./m//a"
    let q := Path.ofString "/u//n/b"
    (pointsOver plainConfig xs p).map (·.toStringLossy) = ["//u/."] ∧
      (∃ d rest, Registry.deviceAt? r p = some d ∧
        Lookup.ownerOf? r p = some ⟨d.id, d.name, rest⟩ ∧ (d.location.join rest).Same p) ∧
      (pointsOver plainConfig xs q).map (·.toStringLossy) = ["//u/.", "/u/n"] ∧
      ∃ o, Lookup.ownerOf? r q = some o ∧ o.id.text = "path:/u//n/b" := by
  intro t xs r p q
  obtain ⟨-, -, hbelow, -⟩ := longest_mount_decides plainConfig xs p
  obtain ⟨-, -, -, hfixed⟩ := longest_mount_decides plainConfig xs q
  obtain ⟨d, hd⟩ : ∃ d, Registry.deviceAt? r p = some d :=
    Option.isSome_iff_exists.1 (by decide +kernel)
  obtain ⟨rest, howner, -, hsame⟩ := hbelow (by decide) d hd
  obtain ⟨o, ho, htext, -⟩ := hfixed (by decide) (by decide +kernel) "/u//n/b" rfl
  exact ⟨by decide +kernel, ⟨d, rest, hd, howner, hsame⟩, by decide +kernel, o, ho, htext⟩

/-- The id of the device that holds a path leads to the first location where it is attached. What
the path is as seen from the device leads back to it from there exactly if this is the location that
holds the path, so always if no other mount has the id. -/
theorem owner_leads_back_iff (config : Config) (xs : List Reading) {p : Path} {o : PathOwner}
    (ho : Lookup.ownerOf? (after config xs) p = some o) (hremovable : o.id.isRemovable = true) :
    let r := after config xs
    ∃ d first, Registry.deviceAt? r p = some d ∧ d.id = o.id ∧
      (Registry.attached r).find? (·.id = o.id) = some first ∧
      Lookup.pathOf? r o.id.text = .ok (some first.location) ∧
      ((first.location.join o.relativePath).Same p ↔ first = d) ∧
      ((∀ e ∈ Registry.attached r, e.id = o.id → e = d) →
        (first.location.join o.relativePath).Same p) := by
  intro r
  obtain ⟨d, hd, -, habsolute, -⟩ := Lookup.exists_of_ownerOf? ho hremovable
  obtain ⟨rest, hrest, hrelative, hsteps⟩ := exists_relative habsolute hd
  obtain rfl : ⟨d.id, d.name, rest⟩ = o := Option.some.inj (hrest.symm.trans ho)
  have hmem : d ∈ Registry.attached r := (mem_of_deviceAt? hd).1
  obtain ⟨first, hfirst⟩ : ∃ first, (Registry.attached r).find? (·.id = d.id) = some first := by
    rw [← Option.isSome_iff_exists, List.find?_isSome]
    exact ⟨d, hmem, by simp⟩
  have hfirstMem : first ∈ r.devices := List.mem_of_find?_eq_some hfirst
  have hfirstId : first.id = d.id := by simpa using List.find?_some hfirst
  have hpath : Lookup.pathOf? r d.id.text = .ok (some first.location) := by
    rw [Lookup.pathOf?_text hremovable, locationOf?_text, hfirst, Option.map_some]
  -- One device at most is at a place.
  have hplace : first.location.Same d.location ↔ first = d := by
    constructor
    · intro hsame
      have hascending := (tracks_after config xs).ascending
      have hat := (recordAt?_eq_some_iff hascending).2 ⟨hfirstMem, hsame⟩
      rw [(recordAt?_eq_some_iff hascending).2 ⟨hmem, .refl _⟩] at hat
      exact (Option.some.inj hat).symm
    · rintro rfl
      exact .refl _
  have hback : (first.location.join rest).Same p ↔ first = d :=
    (Path.join_same_iff (bytes_location_ne_nil hfirstMem) hrelative hsteps).trans hplace
  exact ⟨d, first, hd, rfl, hfirst, hpath, hback, fun honly =>
    hback.2 (honly first hfirstMem hfirstId)⟩

theorem owner_leads_back_respelled :
    let t := plainTree "/dev/sdb //u/. vfat rw 0 0\n/dev/sdc /v vfat rw 0 0\n"
      [("sdb", "1\n"), ("sdc", "1\n")]
    let r := after plainConfig [⟨t, ⟨10, 0⟩⟩]
    let p := Path.ofString "/u/./m//a"
    ∃ o L, Lookup.ownerOf? r p = some o ∧ o.id.isRemovable = true ∧
      Lookup.pathOf? r o.id.text = .ok (some L) ∧ (L.join o.relativePath).Same p := by
  intro t r p
  obtain ⟨o, ho⟩ : ∃ o, Lookup.ownerOf? r p = some o :=
    Option.isSome_iff_exists.1 (by decide +kernel)
  have hremovable : o.id.isRemovable = true := by
    have hall : (Lookup.ownerOf? r p).all (·.id.isRemovable) = true := by decide +kernel
    rwa [ho] at hall
  obtain ⟨d, first, hd, hid, hfirst, hpath, -, hback⟩ :=
    owner_leads_back_iff plainConfig [⟨t, ⟨10, 0⟩⟩] ho hremovable
  refine ⟨o, first.location, ho, hremovable, hpath, hback fun e he heid => ?_⟩
  -- The two disks have different ids.
  have hdistinct : ∀ e ∈ Registry.attached r, ∀ e' ∈ Registry.attached r,
      e.id = e'.id → e = e' := by decide +kernel
  exact hdistinct e he d (mem_of_deviceAt? hd).1 (heid.trans hid.symm)

/-- A path on the second mount of a disk leads to the id of the disk, and the id leads to the first
mount of it. -/
theorem second_mount_does_not_lead_back :
    let t := plainTree "/dev/sdb /u vfat rw 0 0\n/dev/sdb /v vfat rw 0 0\n" [("sdb", "1\n")]
    let r := after plainConfig [⟨t, ⟨10, 0⟩⟩]
    let p := Path.ofString "/v/a"
    ∃ o L, Lookup.ownerOf? r p = some o ∧ o.id.isRemovable = true ∧
      Lookup.pathOf? r o.id.text = .ok (some L) ∧ ¬ (L.join o.relativePath).Same p := by
  refine ⟨⟨.make .withoutDcim "DEV:sdb", "sdb", .ofString "a"⟩, .ofString "/u", ?_⟩
  decide +kernel

end MountRegistry

end Hotplug
