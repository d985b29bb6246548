import Hotplug.FileTree.Edit
import Hotplug.Proofs.Registry.Difference
import Hotplug.Proofs.Registry.History
/-!
# What a record outlives

At each place the unique id tracked by the last tree that was read meets the one tracked by the tree
read now. If they are equal, the record stays as it is and nothing is announced; otherwise the old
record departs and a new one arrives (`record_continuity`). So a record may tell of trees long
gone, but where devices are and which unique ids they have does not (`history_independence`).
-/

namespace Hotplug.MountRegistry

open AttachedDevice (Ascending)

/-- At each place a reading keeps the record if the unique id tracked there is the one tracked
before, and replaces it otherwise. The events at a place are those of its record. -/
theorem record_continuity (config : Config) (xs : List Reading) {t : FileTree} {now : Instant}
    {events : List Event} {r' : MountRegistry}
    (hr : (after config xs).refresh t now = .ok (events, r')) (p : Path) :
    let r := after config xs
    let before := (lastRead config xs).bind (trackedId? config · p)
    let current := trackedId? config t p
    (recordAt? r.devices p).map (·.id.uniqueId) = before ∧
      (recordAt? r'.devices p).map (·.id.uniqueId) = current ∧
      (before = current →
        recordAt? r'.devices p = recordAt? r.devices p ∧
          events.filter (·.location.Same p) = []) ∧
      (before ≠ current →
        (∀ d, recordAt? r'.devices p = some d → d.attachedAt = now) ∧
          events.filter (·.location.Same p) =
            (recordAt? r.devices p).toList.map .departure ++
              (recordAt? r'.devices p).toList.map .arrival) := by
  have hold := tracks_after config xs
  have hnew := hold.refresh hr
  obtain ⟨-, rfl, rfl⟩ := refresh_eq_ok_iff.1 hr
  have hbefore := hold.uniqueId_eq p
  have hcurrent := hnew.uniqueId_eq p
  intro r before current
  refine ⟨hbefore, hcurrent, fun heq => ?_, fun hne => ?_⟩
  · have hkept : recordAt? (survey r.config t now r.devices) p = recordAt? r.devices p := by
      apply recordAt?_survey_of_eq
      rw [hbefore, hold.config_eq]
      exact heq
    exact ⟨hkept, filter_difference_of_eq hold.ascending hnew.ascending hkept⟩
  · -- The unique ids at this place differ, so the record there is new and has another id.
    have hother : ∀ d, recordAt? (survey r.config t now r.devices) p = some d →
        (recordAt? r.devices p).map (·.id.uniqueId) ≠ some d.id.uniqueId := by
      intro d hd hsame
      apply hne
      calc before = (recordAt? r.devices p).map (·.id.uniqueId) := hbefore.symm
        _ = some d.id.uniqueId := hsame
        _ = (recordAt? (survey r.config t now r.devices) p).map (·.id.uniqueId) := by
          rw [hd, Option.map_some]
        _ = current := hcurrent
    refine ⟨fun d hd => ?_, ?_⟩
    · obtain ⟨s, -, rfl⟩ := recordAt?_survey_of_ne r.config t now r.devices hd (hother d hd)
      rfl
    · apply filter_difference_of_ne hold.ascending hnew.ascending
      intro a b ha hb hid
      exact hother b hb (by rw [ha, Option.map_some, hid])

/-- The mount point is respelled, the disk now shows a camera, and another disk comes. -/
theorem record_continuity_respelled :
    let first := plainTree "/dev/sdb /u vfat rw 0 0\n" [("sdb", "1\n")]
    let second := ((plainTree "/dev/sdb //u/. vfat rw 0 0\n/dev/sdc /v vfat rw 0 0\n"
      [("sdb", "1\n"), ("sdc", "1\n")]).put [Utf8.ofString "u"] .dir).put
        [Utf8.ofString "u", Utf8.ofString "DCIM"] .dir
    let r := after plainConfig [⟨first, ⟨10, 0⟩⟩]
    BlockDevice.hasDcim second (.ofString "//u/.") = true ∧
      ∃ events r', r.refresh second ⟨20, 0⟩ = .ok (events, r') ∧
        (recordAt? r.devices (.ofString "/u")).map (·.id.text) = some "nodcim:DEV:sdb" ∧
        recordAt? r'.devices (.ofString "/u") = recordAt? r.devices (.ofString "/u") ∧
        events.filter (·.location.Same (.ofString "/u")) = [] := by
  intro first second r
  have hread : second.readText r.config.mountsPath =
      .ok "/dev/sdb //u/. vfat rw 0 0\n/dev/sdc /v vfat rw 0 0\n" := by decide +kernel
  obtain ⟨events, r', hr⟩ := exists_refresh_eq_ok hread ⟨20, 0⟩
  obtain ⟨-, -, hkept, -⟩ := record_continuity plainConfig [⟨first, ⟨10, 0⟩⟩] hr (.ofString "/u")
  exact ⟨by decide +kernel, events, r', hr, by decide +kernel, hkept (by decide +kernel)⟩

def placeAndId (d : AttachedDevice) : List Component × String :=
  (d.location.components, d.id.uniqueId)

theorem map_placeAndId_recordAt? (ds : List AttachedDevice) (p : Path) :
    (recordAt? ds p).map placeAndId =
      ((recordAt? ds p).map (·.id.uniqueId)).map (p.components, ·) := by
  cases hd : recordAt? ds p with
  | none => rfl
  | some d =>
    have hsame : d.location.components = p.components := same_of_recordAt? hd
    rw [Option.map_some, Option.map_some, Option.map_some, placeAndId, hsame]

theorem pairwise_map_placeAndId {ds : List AttachedDevice} (h : Ascending ds) :
    (ds.map placeAndId).Pairwise fun a b => compare a.1 b.1 = .lt :=
  List.pairwise_map.2 h

theorem mem_map_placeAndId {as bs : List AttachedDevice} (ha : Ascending as)
    (h : ∀ p, (recordAt? as p).map (·.id.uniqueId) = (recordAt? bs p).map (·.id.uniqueId))
    {x : List Component × String} (hx : x ∈ as.map placeAndId) : x ∈ bs.map placeAndId := by
  obtain ⟨d, hd, rfl⟩ := List.mem_map.1 hx
  have hrecord : recordAt? as d.location = some d :=
    (recordAt?_eq_some_iff ha).2 ⟨hd, .refl _⟩
  have hmap : (recordAt? bs d.location).map placeAndId = some (placeAndId d) := by
    rw [map_placeAndId_recordAt?, ← h, ← map_placeAndId_recordAt?, hrecord, Option.map_some]
  obtain ⟨e, he, hed⟩ := Option.map_eq_some_iff.1 hmap
  exact List.mem_map.2 ⟨e, mem_of_recordAt? he, hed⟩

theorem map_placeAndId_eq {as bs : List AttachedDevice} (ha : Ascending as) (hb : Ascending bs)
    (h : ∀ p, (recordAt? as p).map (·.id.uniqueId) = (recordAt? bs p).map (·.id.uniqueId)) :
    as.map placeAndId = bs.map placeAndId := by
  have hirrefl : ∀ x : List Component × String, compare x.1 x.1 ≠ .lt := by
    intro x
    rw [Std.ReflOrd.compare_self]
    nofun
  have hnodup (ds : List AttachedDevice) (hds : Ascending ds) : (ds.map placeAndId).Nodup := by
    refine (pairwise_map_placeAndId hds).imp ?_
    rintro x y hlt rfl
    exact hirrefl x hlt
  -- Two strictly ascending lists with the same members are equal.
  have hperm : (as.map placeAndId).Perm (bs.map placeAndId) :=
    (List.perm_ext_iff_of_nodup (hnodup as ha) (hnodup bs hb)).2 fun x =>
      ⟨mem_map_placeAndId ha h, mem_map_placeAndId hb fun p => (h p).symm⟩
  refine hperm.eq_of_pairwise ?_ (pairwise_map_placeAndId ha) (pairwise_map_placeAndId hb)
  intro x y _ _ hxy hyx
  exact absurd (Std.TransCmp.lt_trans hxy hyx) (hirrefl x)

/-- What is tracked after a reading, and where, is decided by the tree alone. -/
theorem history_independence (config : Config) (xs ys : List Reading) {t : FileTree}
    {now₁ now₂ : Instant} {events₁ events₂ : List Event} {r₁ r₂ : MountRegistry}
    (hr₁ : (after config xs).refresh t now₁ = .ok (events₁, r₁))
    (hr₂ : (after config ys).refresh t now₂ = .ok (events₂, r₂)) :
    (Registry.attached r₁).map placeAndId = (Registry.attached r₂).map placeAndId ∧
      (∀ p, (recordAt? (Registry.attached r₁) p).map (·.id.uniqueId) = trackedId? config t p) ∧
      (∀ p, (recordAt? (Registry.attached r₂) p).map (·.id.uniqueId) = trackedId? config t p) ∧
      ∀ p, (Registry.deviceAt? r₁ p).map placeAndId = (Registry.deviceAt? r₂ p).map placeAndId := by
  have h₁ := (tracks_after config xs).refresh hr₁
  have h₂ := (tracks_after config ys).refresh hr₂
  have hids : ∀ p, (recordAt? r₁.devices p).map (·.id.uniqueId) =
      (recordAt? r₂.devices p).map (·.id.uniqueId) := fun p =>
    (h₁.uniqueId_eq p).trans (h₂.uniqueId_eq p).symm
  refine ⟨map_placeAndId_eq h₁.ascending h₂.ascending hids, h₁.uniqueId_eq, h₂.uniqueId_eq, ?_⟩
  intro p
  change (deviceAt? r₁ p).map placeAndId = (deviceAt? r₂ p).map placeAndId
  rw [deviceAt?, deviceAt?, h₁.points_eq, h₂.points_eq, Option.map_bind, Option.map_bind]
  congr 1
  funext point
  rw [Function.comp, Function.comp, map_placeAndId_recordAt?, hids, map_placeAndId_recordAt?]

theorem history_independence_swapped :
    let before := plainTree "/dev/sdb /u vfat rw 0 0\n" [("sdb", "1\n")]
    let t := plainTree "/dev/sdb /v/ vfat rw 0 0\n/dev/sdc /u vfat rw 0 0\n"
      [("sdb", "1\n"), ("sdc", "1\n")]
    ∃ events₁ r₁ events₂ r₂,
      (after plainConfig [⟨before, ⟨10, 0⟩⟩]).refresh t ⟨20, 0⟩ = .ok (events₁, r₁) ∧
      (after plainConfig []).refresh t ⟨30, 0⟩ = .ok (events₂, r₂) ∧
      (Registry.attached r₁).map placeAndId = (Registry.attached r₂).map placeAndId := by
  intro before t
  have hread (xs : List Reading) : t.readText (after plainConfig xs).config.mountsPath =
      .ok "/dev/sdb /v/ vfat rw 0 0\n/dev/sdc /u vfat rw 0 0\n" := by
    rw [(tracks_after plainConfig xs).config_eq]
    decide +kernel
  obtain ⟨events₁, r₁, hr₁⟩ := exists_refresh_eq_ok (hread [⟨before, ⟨10, 0⟩⟩]) ⟨20, 0⟩
  obtain ⟨events₂, r₂, hr₂⟩ := exists_refresh_eq_ok (hread []) ⟨30, 0⟩
  obtain ⟨hplaces, -⟩ := history_independence plainConfig _ _ hr₁ hr₂
  exact ⟨events₁, r₁, events₂, r₂, hr₁, hr₂, hplaces⟩

end Hotplug.MountRegistry
