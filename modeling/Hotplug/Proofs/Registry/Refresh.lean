import Hotplug.Proofs.Registry.Ascending
/-!
# What one reading of the mount table does

A reading succeeds exactly if the table can be read as text. It then puts one record at each place
where a removable block device is mounted, and the last of the mounts there decides which device
that is (`recordAt?_survey`). The record is the one that was at the place before if its unique id is
the one found now, and a new one otherwise.
-/

namespace Hotplug.MountRegistry

open AttachedDevice (Ascending)

/-- The mounts in the table of a tree; none if the table cannot be read. -/
def table (config : Config) (t : FileTree) : List Mount :=
  match t.readText config.mountsPath with
  | .ok text => Mount.parse text
  | .error _ => []

def removableBlock? (config : Config) (t : FileTree) (m : Mount) : Option String :=
  (m.blockName? t).filter (BlockDevice.isRemovable t config.sysfsPath)

/-- The block device tracked at a place: of the removable ones mounted there the last one. -/
def blockAt? (config : Config) (t : FileTree) (p : Path) : Option String :=
  (((table config t).filter (·.point.Same p)).filterMap (removableBlock? config t)).getLast?

/-- The unique id tracked at a place. -/
def trackedId? (config : Config) (t : FileTree) (p : Path) : Option String :=
  (blockAt? config t p).map (uniqueIdOf config t)

def survey (config : Config) (t : FileTree) (now : Instant) (previous : List AttachedDevice) :
    List AttachedDevice :=
  byLocation ((sightings config t (table config t)).map (recordOf config t now previous))

theorem refresh_eq_ok_iff {r r' : MountRegistry} {t : FileTree} {now : Instant}
    {events : List Event} :
    r.refresh t now = .ok (events, r') ↔
      (∃ text, t.readText r.config.mountsPath = .ok text) ∧
      events = difference r.devices (survey r.config t now r.devices) ∧
      r' = { config := r.config
             points := (table r.config t).map (·.point)
             devices := survey r.config t now r.devices
             events := r.events.sendAll events } := by
  unfold refresh survey table
  cases hread : t.readText r.config.mountsPath with
  | error e => simp
  | ok text =>
    simp only [Except.ok.injEq, Prod.mk.injEq, exists_eq', true_and]
    constructor
    · rintro ⟨rfl, rfl⟩
      exact ⟨rfl, rfl⟩
    · rintro ⟨rfl, rfl⟩
      exact ⟨rfl, rfl⟩

theorem exists_refresh_eq_ok {r : MountRegistry} {t : FileTree} {text : String}
    (h : t.readText r.config.mountsPath = .ok text) (now : Instant) :
    ∃ events r', r.refresh t now = .ok (events, r') :=
  ⟨_, _, refresh_eq_ok_iff.2 ⟨⟨text, h⟩, rfl, rfl⟩⟩

theorem refresh_eq_error_iff {r : MountRegistry} {t : FileTree} {now : Instant} {e : Error} :
    r.refresh t now = .error e ↔
      ∃ cause, t.readText r.config.mountsPath = .error cause ∧ e = .file cause := by
  unfold refresh
  cases hread : t.readText r.config.mountsPath with
  | error cause => simp [eq_comm]
  | ok text => simp

theorem sightings_eq (config : Config) (t : FileTree) (mounts : List Mount) :
    sightings config t mounts =
      mounts.filterMap fun m => (removableBlock? config t m).map (⟨m.point, ·⟩) := by
  unfold sightings removableBlock?
  congr 1
  funext m
  cases m.blockName? t with
  | none => rfl
  | some block =>
    by_cases h : BlockDevice.isRemovable t config.sysfsPath block <;>
      simp [Option.filter_some, h]

def sightingAt? (config : Config) (t : FileTree) (p : Path) : Option Sighting :=
  ((sightings config t (table config t)).filter (·.point.Same p)).getLast?

theorem same_of_sightingAt? {config : Config} {t : FileTree} {p : Path} {s : Sighting}
    (h : sightingAt? config t p = some s) : s.point.Same p := by
  have hs := List.mem_of_getLast? h
  simpa using (List.mem_filter.1 hs).2

theorem map_block_sightingAt? (config : Config) (t : FileTree) (p : Path) :
    (sightingAt? config t p).map (·.block) = blockAt? config t p := by
  rw [sightingAt?, blockAt?, ← List.getLast?_map, sightings_eq]
  congr 1
  induction table config t with
  | nil => rfl
  | cons m ms ih =>
    by_cases hp : m.point.Same p <;> cases hm : removableBlock? config t m <;>
      simp [hp, hm, ih]

section Record

variable (config : Config) (t : FileTree) (now : Instant) (previous : List AttachedDevice)

theorem same_recordOf (s : Sighting) :
    (recordOf config t now previous s).location.Same s.point := by
  unfold recordOf
  split
  next d hd =>
    split
    · exact same_of_recordAt? hd
    · rfl
  next => rfl

theorem uniqueId_recordOf (s : Sighting) :
    (recordOf config t now previous s).id.uniqueId = uniqueIdOf config t s.block := by
  unfold recordOf
  split
  next d hd =>
    split
    next huid => exact huid
    next => simp [newRecord]
  next => simp [newRecord]

theorem recordOf_of_uniqueId {s : Sighting} {d : AttachedDevice}
    (hd : recordAt? previous s.point = some d)
    (hid : d.id.uniqueId = uniqueIdOf config t s.block) :
    recordOf config t now previous s = d := by
  simp [recordOf, hd, hid]

theorem recordOf_of_ne {s : Sighting}
    (h : (recordAt? previous s.point).map (·.id.uniqueId) ≠ some (uniqueIdOf config t s.block)) :
    recordOf config t now previous s = newRecord config t now s := by
  unfold recordOf
  split
  next d hd =>
    rw [hd] at h
    rw [if_neg fun hid => h (by simp [hid])]
  next => rfl

theorem recordAt?_survey (p : Path) :
    recordAt? (survey config t now previous) p =
      (sightingAt? config t p).map (recordOf config t now previous) := by
  rw [survey, recordAt?_byLocation, sightingAt?, List.filter_map, List.getLast?_map]
  congr 3
  funext s
  exact decide_eq_decide.2 ((same_recordOf config t now previous s).congr_left p)

theorem uniqueId_recordAt?_survey (p : Path) :
    (recordAt? (survey config t now previous) p).map (·.id.uniqueId) =
      trackedId? config t p := by
  rw [recordAt?_survey, trackedId?, ← map_block_sightingAt?, Option.map_map, Option.map_map]
  congr 1
  funext s
  exact uniqueId_recordOf config t now previous s

theorem recordAt?_survey_of_eq {p : Path}
    (hid : (recordAt? previous p).map (·.id.uniqueId) = trackedId? config t p) :
    recordAt? (survey config t now previous) p = recordAt? previous p := by
  cases hd : recordAt? previous p with
  | none =>
    rw [hd, ← uniqueId_recordAt?_survey config t now previous] at hid
    exact Option.map_eq_none_iff.1 hid.symm
  | some d =>
    rw [hd, trackedId?, ← map_block_sightingAt?, Option.map_map, Option.map_some] at hid
    obtain ⟨s, hs, hsid⟩ := Option.map_eq_some_iff.1 hid.symm
    have hprev : recordAt? previous s.point = some d := by
      rw [recordAt?_congr (same_of_sightingAt? hs), hd]
    rw [recordAt?_survey, hs, Option.map_some,
      recordOf_of_uniqueId config t now previous hprev hsid.symm]

theorem recordAt?_survey_of_ne {p : Path} {d : AttachedDevice}
    (hd : recordAt? (survey config t now previous) p = some d)
    (hne : (recordAt? previous p).map (·.id.uniqueId) ≠ some d.id.uniqueId) :
    ∃ s, sightingAt? config t p = some s ∧ d = newRecord config t now s := by
  rw [recordAt?_survey] at hd
  obtain ⟨s, hs, rfl⟩ := Option.map_eq_some_iff.1 hd
  refine ⟨s, hs, recordOf_of_ne config t now previous ?_⟩
  rwa [recordAt?_congr (same_of_sightingAt? hs), ← uniqueId_recordOf config t now previous]

theorem eq_of_id_eq {p : Path} {a b : AttachedDevice} (ha : recordAt? previous p = some a)
    (hb : recordAt? (survey config t now previous) p = some b) (hid : a.id = b.id) : a = b := by
  have htracked := uniqueId_recordAt?_survey config t now previous p
  rw [hb, Option.map_some, ← hid] at htracked
  have hkept := recordAt?_survey_of_eq config t now previous (by rw [ha, ← htracked]; rfl)
  rw [ha, hb] at hkept
  exact (Option.some.inj hkept).symm

theorem ascending_survey : Ascending (survey config t now previous) :=
  ascending_byLocation _

end Record

end Hotplug.MountRegistry
