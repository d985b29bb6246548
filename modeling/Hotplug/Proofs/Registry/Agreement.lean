import Hotplug.Proofs.Registry.MemoryLookup
/-!
# Two registries of the same devices

A registry in memory that is given the devices of a mount registry looks for the deepest location
that contains a path, where the mount registry looks for the deepest mount point. Where every mount
point is tracked, the two find the same device (`deviceAt?_eq_some_iff_deepest`). If the ids differ
too, the registry in memory takes every device, in whatever order they come, and the two answer
every question alike (`registries_agree`).
-/

namespace Hotplug

namespace Lookup

section

variable {σ τ : Type} [Registry σ] [Registry τ] {s : σ} {s' : τ}

theorem ownerOf?_congr {p : Path} (h : Registry.deviceAt? s p = Registry.deviceAt? s' p) :
    ownerOf? s p = ownerOf? s' p := by
  rw [ownerOf?, ownerOf?, h]

theorem pathOf?_congr (h : ∀ id, Registry.locationOf? s id = Registry.locationOf? s' id)
    (id : String) : pathOf? s id = pathOf? s' id := by
  have hpath : pathOfId? s = pathOfId? s' := by
    funext id
    rw [pathOfId?, pathOfId?, h]
  rw [pathOf?, pathOf?, hpath]

end

end Lookup

namespace AttachedDevice

section Perm

variable {ds es : List AttachedDevice} {p : Path}

theorem deepest_congr (h : ds.Perm es) {d : AttachedDevice} : Deepest ds p d ↔ Deepest es p d := by
  constructor
  · rintro ⟨hmem, hcontains, hle⟩
    exact ⟨h.mem_iff.1 hmem, hcontains, fun e he => hle e (h.mem_iff.2 he)⟩
  · rintro ⟨hmem, hcontains, hle⟩
    exact ⟨h.mem_iff.2 hmem, hcontains, fun e he => hle e (h.mem_iff.1 he)⟩

theorem DepthsDiffer.perm (h : ds.Perm es) (hds : DepthsDiffer ds p) : DepthsDiffer es p := by
  intro d hd e he
  exact hds d (h.mem_iff.2 hd) e (h.mem_iff.2 he)

end Perm

end AttachedDevice

namespace MemoryRegistry

/-- Of several devices with one id that come one after the other, the first is kept. -/
theorem lookup_arrivals (ds : List AttachedDevice) (id : String) :
    (Journal.ofCalls (ds.map .attach)).roll.lookup id = ds.find? (·.id.text = id) := by
  induction ds using List.reverseRecOn with
  | nil => exact Finmap.lookup_empty id
  | append_singleton ds d ih =>
    rw [List.map_append, List.map_singleton, Journal.ofCalls_concat, Journal.enter, Roll.next,
      List.find?_append, ← ih]
    split
    next hpresent =>
      obtain ⟨e, he⟩ := Finmap.mem_iff.1 hpresent
      by_cases hid : d.id.text = id
      · rw [← hid, he, Option.some_or]
      · rw [List.find?_singleton, if_neg (by simpa using hid), Option.or_none]
    next habsent =>
      by_cases hid : d.id.text = id
      · rw [← hid, Finmap.lookup_insert, Finmap.lookup_eq_none.2 habsent, Option.none_or,
          List.find?_singleton, if_pos (by simp)]
      · rw [Finmap.lookup_insert_of_ne _ (Ne.symm hid), List.find?_singleton,
          if_neg (by simpa using hid), Option.or_none]

section Arrivals

variable (capacity : Nat) {ds : List AttachedDevice}

theorem perm_attached_arrivals (h : (ds.map (·.id.text)).Nodup) :
    (Registry.attached (after capacity (ds.map .attach))).Perm ds := by
  have hholds := (holds_after capacity (ds.map .attach)).1
  apply (List.perm_ext_iff_of_nodup hholds.nodup.of_map h.of_map).2
  intro d
  calc d ∈ Registry.attached (after capacity (ds.map .attach))
    _ ↔ (Journal.ofCalls (ds.map .attach)).roll.lookup d.id.text = some d := hholds.mem_iff
    _ ↔ ds.find? (·.id.text = d.id.text) = some d := by rw [lookup_arrivals]
    _ ↔ d ∈ ds := by simp [find?_eq_some_iff_of_nodup h]

theorem attempt_arrival {before behind : List AttachedDevice} {d : AttachedDevice}
    (h : ((before ++ d :: behind).map (·.id.text)).Nodup) :
    ((after capacity (before.map .attach)).attempt (.attach d)).1 = .ok none := by
  have hnew : before.find? (·.id.text = d.id.text) = none := by
    rw [List.find?_eq_none]
    intro e he heq
    rw [List.map_append, List.nodup_append] at h
    exact h.2.2 e.id.text (List.mem_map_of_mem he) d.id.text (by simp) (by simpa using heq)
  have habsent : d.id.text ∉ (Journal.ofCalls (before.map .attach)).roll := by
    rw [← Finmap.lookup_eq_none, lookup_arrivals, hnew]
  rw [((holds_after capacity (before.map .attach)).1.attempt (.attach d)).1, Roll.answer,
    if_neg habsent]

end Arrivals

end MemoryRegistry

namespace MountRegistry

open AttachedDevice (Deepest DepthsDiffer deepestContaining?)

/-- Every mount point of the table read last is where a device is attached. -/
def TracksAll (config : Config) (xs : List Reading) : Prop :=
  ∀ m ∈ (lastRead config xs).elim [] (table config),
    ∃ d ∈ Registry.attached (after config xs), d.location.Same m.point

instance (config : Config) (xs : List Reading) : Decidable (TracksAll config xs) :=
  List.decidableBAll _ _

section TracksAll

variable {config : Config} {xs : List Reading} {p : Path} {d : AttachedDevice}

theorem depthsDiffer_after (config : Config) (xs : List Reading) (p : Path) :
    DepthsDiffer (Registry.attached (after config xs)) p := by
  intro d hd e he hdp hep hdepth
  have hsame : d.location.Same e.location :=
    Path.same_of_startsWith (AttachedDevice.contains_iff.1 hdp).2
      (AttachedDevice.contains_iff.1 hep).2 hdepth
  exact (registry_is_wellFormed config xs).2.1 d hd e he hsame

theorem mem_pointsOver_iff {q : Path} :
    q ∈ pointsOver config xs p ↔
      (∃ m ∈ (lastRead config xs).elim [] (table config), m.point = q) ∧
        p.startsWith q = true := by
  rw [pointsOver, List.mem_filter]
  cases lastRead config xs <;> simp

theorem exists_point_of_contains (hd : d ∈ Registry.attached (after config xs))
    (hp : d.contains p = true) : ∃ q ∈ pointsOver config xs p, q.Same d.location := by
  obtain ⟨m, hm, hsame⟩ := (tracks_after config xs).exists_mount hd
  refine ⟨m.point, mem_pointsOver_iff.2 ⟨⟨m, hm, rfl⟩, ?_⟩, hsame⟩
  rw [hsame.startsWith_eq]
  exact (AttachedDevice.contains_iff.1 hp).2

theorem TracksAll.exists_device (h : TracksAll config xs) {q : Path}
    (hq : q ∈ pointsOver config xs p) :
    ∃ d ∈ Registry.attached (after config xs), d.contains p = true ∧ d.location.Same q := by
  obtain ⟨⟨m, hm, rfl⟩, hp⟩ := mem_pointsOver_iff.1 hq
  obtain ⟨d, hd, hsame⟩ := h m hm
  have hcontains : d.contains p = true := by
    rw [AttachedDevice.contains_iff, hsame.startsWith_eq]
    exact ⟨bytes_location_ne_nil hd, hp⟩
  exact ⟨d, hd, hcontains, hsame⟩

theorem TracksAll.deviceAt?_eq_some_iff_deepest (h : TracksAll config xs) :
    Registry.deviceAt? (after config xs) p = some d ↔
      Deepest (Registry.attached (after config xs)) p d := by
  by_cases hnil : pointsOver config xs p = []
  · -- No mount point contains the path, so no device does.
    rw [deviceAt?_of_pointsOver_nil hnil]
    refine ⟨fun hnone => by contradiction, fun hd => ?_⟩
    obtain ⟨q, hq, -⟩ := exists_point_of_contains hd.mem hd.contains
    rw [hnil] at hq
    contradiction
  · obtain ⟨L, hL, hdeepest, hiff⟩ := exists_deepest hnil
    rw [hiff]
    constructor
    · rintro ⟨hd, hsame⟩
      have hcontains : d.contains p = true := by
        rw [AttachedDevice.contains_iff, hsame.startsWith_eq]
        exact ⟨bytes_location_ne_nil hd, (mem_pointsOver_iff.1 hL).2⟩
      refine ⟨hd, hcontains, fun e he hep => ?_⟩
      obtain ⟨q, hq, hqe⟩ := exists_point_of_contains he hep
      rw [← hqe.depth_eq, hsame.depth_eq]
      exact (hdeepest q hq).1
    · intro hd
      obtain ⟨q, hq, hqd⟩ := exists_point_of_contains hd.mem hd.contains
      obtain ⟨e, he, hep, heL⟩ := h.exists_device hL
      have hle : q.depth ≤ L.depth := (hdeepest q hq).1
      have hge : L.depth ≤ q.depth := by
        rw [← heL.depth_eq, hqd.depth_eq]
        exact hd.depth_le e he hep
      exact ⟨hd.mem, hqd.symm.trans ((hdeepest q hq).2 (Nat.le_antisymm hle hge))⟩

theorem TracksAll.deepestContaining?_eq (h : TracksAll config xs) {ds : List AttachedDevice}
    (hds : ds.Perm (Registry.attached (after config xs))) (p : Path) :
    deepestContaining? ds p = Registry.deviceAt? (after config xs) p := by
  ext d
  have hdiffer : DepthsDiffer ds p := (depthsDiffer_after config xs p).perm hds.symm
  rw [AttachedDevice.deepestContaining?_eq_some_iff hdiffer, AttachedDevice.deepest_congr hds]
  exact h.deviceAt?_eq_some_iff_deepest.symm

end TracksAll

/-- A registry in memory takes the devices of a mount registry in any order, if every mount point is
tracked and no two devices have one id. It then says the same as the mount registry of every path
and of every id, in whatever order it goes through its devices. -/
theorem registries_agree (config : Config) (xs : List Reading) (capacity : Nat)
    {ds : List AttachedDevice} (hds : ds.Perm (Registry.attached (after config xs)))
    (htracks : TracksAll config xs)
    (hids : ((Registry.attached (after config xs)).map (·.id)).Nodup) :
    let r := after config xs
    let m := MemoryRegistry.after capacity (ds.map .attach)
    (∀ before d behind, ds = before ++ d :: behind →
        ((MemoryRegistry.after capacity (before.map .attach)).attempt (.attach d)).1 = .ok none) ∧
      (∀ p, Registry.deviceAt? m p = Registry.deviceAt? r p) ∧
      (∀ es : List AttachedDevice, es.Perm (Registry.attached m) →
        ∀ p, deepestContaining? es p = Registry.deviceAt? r p) ∧
      (∀ id, Registry.locationOf? m id = Registry.locationOf? r id) ∧
      (Lookup.mediaDevices m).Perm (Lookup.mediaDevices r) ∧
      (∀ p, Lookup.ownerOf? m p = Lookup.ownerOf? r p) ∧
      ∀ id, Lookup.pathOf? m id = Lookup.pathOf? r id := by
  intro r m
  have htexts : (ds.map (·.id.text)).Nodup := by
    have hnodup : (((Registry.attached r).map (·.id)).map (·.text)).Nodup :=
      hids.map fun _ _ h => DeviceId.text_inj.1 h
    rw [List.map_map] at hnodup
    exact (hds.map _).nodup_iff.2 hnodup
  have hattached : (Registry.attached m).Perm (Registry.attached r) :=
    (MemoryRegistry.perm_attached_arrivals capacity htexts).trans hds
  have hdevice (p : Path) : Registry.deviceAt? m p = Registry.deviceAt? r p :=
    htracks.deepestContaining?_eq hattached p
  have hlocation (id : String) : Registry.locationOf? m id = Registry.locationOf? r id :=
    (MemoryRegistry.holds_after capacity (ds.map .attach)).1.locationOf?_eq hattached.symm id
  refine ⟨?_, hdevice, fun es hes => htracks.deepestContaining?_eq (hes.trans hattached), hlocation,
    hattached.filter _, fun p => Lookup.ownerOf?_congr (hdevice p),
    Lookup.pathOf?_congr hlocation⟩
  rintro before d behind rfl
  exact MemoryRegistry.attempt_arrival capacity htexts

/-- A stick, a camera mounted inside it, and needless slashes and dots in all paths. -/
theorem registries_agree_nested :
    let t := (plainTree "/dev/sdb //u/. vfat rw 0 0\n/dev/sdc /u//n/ vfat rw 0 0\n"
      [("sdb", "1\n"), ("sdc", "1\n")]).put [Utf8.ofString "u", Utf8.ofString "n",
        Utf8.ofString "DCIM"] .dir
    let xs : List Reading := [⟨t, ⟨10, 0⟩⟩]
    let r := after plainConfig xs
    let m := MemoryRegistry.after 0 ((Registry.attached r).reverse.map .attach)
    let p := Path.ofString "/u/./n//a"
    TracksAll plainConfig xs ∧ ((Registry.attached r).map (·.id)).Nodup ∧
      (Registry.deviceAt? r p).map (·.location.toStringLossy) = some "/u//n/" ∧
      Registry.deviceAt? m p = Registry.deviceAt? r p ∧
      Lookup.ownerOf? m p = Lookup.ownerOf? r p ∧
      Lookup.pathOf? m "nodcim:DEV:sdb" = Lookup.pathOf? r "nodcim:DEV:sdb" := by
  intro t xs r m p
  have htracks : TracksAll plainConfig xs := by decide +kernel
  have hids : ((Registry.attached r).map (·.id)).Nodup := by decide +kernel
  obtain ⟨-, hdevice, -, -, -, howner, hpath⟩ :=
    registries_agree plainConfig xs 0 (List.reverse_perm _) htracks hids
  exact ⟨htracks, hids, by decide +kernel, hdevice p, howner p, hpath "nodcim:DEV:sdb"⟩

end MountRegistry

end Hotplug
