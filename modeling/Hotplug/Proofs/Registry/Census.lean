import Hotplug.Proofs.Registry.Lookup
import Hotplug.Proofs.Registry.Replay
import Mathlib.Data.Finset.Erase
import Mathlib.Data.Finset.Insert
import Mathlib.Data.List.Infix
/-!
# Counting devices by their ids

Events are announced mount by mount, and a device may be mounted at several places under one id. So
the arrivals of an id exceed its departures by the number of its mounts, and the id is attached
exactly while they do (`roster_history`). A reader who keeps only a set of ids never has too many of
them, but loses an id when one of several mounts goes (`roster_loses_second_mount`).
-/

namespace Hotplug

open AttachedDevice (Ascending)

def holders (id : DeviceId) (ds : List AttachedDevice) : Nat :=
  ds.countP (·.id = id)

def arrivals (id : DeviceId) (es : List Event) : Nat :=
  es.countP fun e => e.isAttach && e.id = id

def departures (id : DeviceId) (es : List Event) : Nat :=
  es.countP fun e => !e.isAttach && e.id = id

/-- The ids of the devices that have come and not gone, as events tell it. -/
def enroll (s : Finset DeviceId) : Event → Finset DeviceId
  | .attached id _ _ => insert id s
  | .detached id _ => s.erase id

def roster (es : List Event) : Finset DeviceId :=
  es.foldl enroll ∅

theorem holders_pos_iff {id : DeviceId} {ds : List AttachedDevice} :
    0 < holders id ds ↔ ∃ d ∈ ds, d.id = id := by
  simp [holders, List.countP_pos_iff]

/-! ## Counts -/

theorem AttachedDevice.Ascending.nodup {ds : List AttachedDevice} (h : Ascending ds) :
    ds.Nodup := by
  refine List.Pairwise.imp ?_ h
  rintro a b hlt rfl
  exact Path.not_same_of_lt hlt (.refl _)

theorem Ledger.Persists.symm {previous current : List AttachedDevice}
    (h : Ledger.Persists previous current) : Ledger.Persists current previous :=
  fun p a b ha hb hid => (h p b a hb ha hid.symm).symm

namespace MountRegistry

open Ledger (Persists)

section Difference

variable {previous current : List AttachedDevice}

theorem isUnchanged_iff_mem {ds other : List AttachedDevice} (hds : Ascending ds)
    (hother : Ascending other) (hpersists : Persists ds other) {d : AttachedDevice} (hd : d ∈ ds) :
    isUnchanged other d = true ↔ d ∈ other := by
  have hat : recordAt? ds d.location = some d := (recordAt?_eq_some_iff hds).2 ⟨hd, .refl _⟩
  constructor
  · intro h
    rw [isUnchanged] at h
    cases he : recordAt? other d.location with
    | none => simp [he] at h
    | some e =>
      have hid : e.id = d.id := by simpa [he] using h
      rw [hpersists d.location d e hat he hid.symm]
      exact mem_of_recordAt? he
  · intro h
    rw [isUnchanged, (recordAt?_eq_some_iff hother).2 ⟨h, .refl _⟩]
    simp

theorem perm_unchanged (hprevious : Ascending previous) (hcurrent : Ascending current)
    (hpersists : Persists previous current) :
    (previous.filter (isUnchanged current)).Perm (current.filter (isUnchanged previous)) := by
  rw [List.perm_ext_iff_of_nodup (hprevious.nodup.filter _) (hcurrent.nodup.filter _)]
  intro d
  rw [List.mem_filter, List.mem_filter]
  constructor
  · rintro ⟨hd, hunchanged⟩
    have hmem := (isUnchanged_iff_mem hprevious hcurrent hpersists hd).1 hunchanged
    exact ⟨hmem, (isUnchanged_iff_mem hcurrent hprevious hpersists.symm hmem).2 hd⟩
  · rintro ⟨hd, hunchanged⟩
    have hmem := (isUnchanged_iff_mem hcurrent hprevious hpersists.symm hd).1 hunchanged
    exact ⟨hmem, (isUnchanged_iff_mem hprevious hcurrent hpersists hmem).2 hd⟩

theorem arrivals_difference (id : DeviceId) :
    arrivals id (difference previous current) = holders id (unmatched current previous) := by
  have hgone : arrivals id ((unmatched previous current).map .departure) = 0 := by
    rw [arrivals, List.countP_map, List.countP_eq_zero]
    simp [Event.departure, Event.isAttach]
  rw [difference_eq, arrivals, List.countP_append, ← arrivals, hgone, Nat.zero_add, List.countP_map]
  rfl

theorem departures_difference (id : DeviceId) :
    departures id (difference previous current) = holders id (unmatched previous current) := by
  have hcome : departures id ((unmatched current previous).map .arrival) = 0 := by
    rw [departures, List.countP_map, List.countP_eq_zero]
    simp [Event.arrival, Event.isAttach]
  rw [difference_eq, departures, List.countP_append, ← departures, ← departures, hcome,
    Nat.add_zero, departures, List.countP_map]
  rfl

theorem holders_difference (hprevious : Ascending previous) (hcurrent : Ascending current)
    (hpersists : Persists previous current) (id : DeviceId) :
    holders id previous + arrivals id (difference previous current) =
      departures id (difference previous current) + holders id current := by
  have hkept : holders id (previous.filter (isUnchanged current)) =
      holders id (current.filter (isUnchanged previous)) :=
    (perm_unchanged hprevious hcurrent hpersists).countP_eq _
  have hold : holders id previous = holders id (previous.filter (isUnchanged current)) +
      holders id (unmatched previous current) := List.countP_eq_countP_filter_add _ _ _
  have hnew : holders id current = holders id (current.filter (isUnchanged previous)) +
      holders id (unmatched current previous) := List.countP_eq_countP_filter_add _ _ _
  rw [arrivals_difference, departures_difference]
  omega

end Difference

theorem holders_attempt (config : Config) (xs : List Reading) (x : Reading) (id : DeviceId) :
    holders id (after config xs).devices + arrivals id ((after config xs).attempt x).1 =
      departures id ((after config xs).attempt x).1 +
        holders id ((after config xs).attempt x).2.devices := by
  have htracks := tracks_after config xs
  rw [attempt]
  split
  next out hout =>
    obtain ⟨-, hevents, hafter⟩ := refresh_eq_ok_iff.1 hout
    rw [hevents, hafter]
    exact holders_difference htracks.ascending (ascending_survey _ _ _ _)
      (fun p a b => eq_of_id_eq _ _ _ _) id
  next => simp [arrivals, departures]

theorem departures_attempt_le (config : Config) (xs : List Reading) (x : Reading)
    (id : DeviceId) :
    departures id ((after config xs).attempt x).1 ≤ holders id (after config xs).devices := by
  rw [attempt]
  split
  next out hout =>
    obtain ⟨-, hevents, -⟩ := refresh_eq_ok_iff.1 hout
    rw [hevents, departures_difference]
    exact List.Sublist.countP_le List.filter_sublist
  next => exact Nat.zero_le _

theorem holders_batches (config : Config) (xs : List Reading) (id : DeviceId) :
    arrivals id (batches config xs).flatten =
      departures id (batches config xs).flatten + holders id (after config xs).devices := by
  induction xs using List.reverseRecOn with
  | nil => rfl
  | append_singleton xs x ih =>
    have hstep := holders_attempt config xs x id
    rw [batches_concat, after_concat, List.flatten_append, List.flatten_singleton, arrivals,
      departures, List.countP_append, List.countP_append, ← arrivals, ← arrivals, ← departures,
      ← departures]
    omega

/-! ## Sets of ids -/

theorem mem_foldl_arrivals {s : Finset DeviceId} {ds : List AttachedDevice} {id : DeviceId} :
    id ∈ (ds.map .arrival).foldl enroll s ↔ id ∈ s ∨ 0 < holders id ds := by
  rw [holders_pos_iff]
  induction ds generalizing s with
  | nil => simp
  | cons d ds ih =>
    rw [List.map_cons, List.foldl_cons, ih, Event.arrival, enroll, Finset.mem_insert]
    simp only [List.mem_cons, exists_eq_or_imp]
    rw [eq_comm, or_assoc, or_left_comm]

theorem mem_foldl_departures {s : Finset DeviceId} {ds : List AttachedDevice} {id : DeviceId} :
    id ∈ (ds.map .departure).foldl enroll s ↔ id ∈ s ∧ holders id ds = 0 := by
  rw [holders, List.countP_eq_zero]
  induction ds generalizing s with
  | nil => simp
  | cons d ds ih =>
    rw [List.map_cons, List.foldl_cons, ih, Event.departure, enroll, Finset.mem_erase,
      List.forall_mem_cons, decide_eq_true_iff, ne_comm, and_assoc, and_left_comm]

theorem mem_foldl_difference {s : Finset DeviceId} {previous current : List AttachedDevice}
    {id : DeviceId} :
    id ∈ (difference previous current).foldl enroll s ↔
      id ∈ s ∧ departures id (difference previous current) = 0 ∨
        0 < arrivals id (difference previous current) := by
  rw [arrivals_difference, departures_difference, difference_eq, List.foldl_append,
    mem_foldl_arrivals, mem_foldl_departures]

theorem mem_foldl_attempt {s : Finset DeviceId} {r : MountRegistry} {x : Reading} {id : DeviceId} :
    id ∈ (r.attempt x).1.foldl enroll s ↔
      id ∈ s ∧ departures id (r.attempt x).1 = 0 ∨ 0 < arrivals id (r.attempt x).1 := by
  rw [attempt]
  split
  next out hout =>
    obtain ⟨-, hevents, -⟩ := refresh_eq_ok_iff.1 hout
    rw [hevents]
    exact mem_foldl_difference
  next => simp [arrivals, departures]

theorem roster_concat (config : Config) (xs : List Reading) (x : Reading) :
    roster (batches config (xs ++ [x])).flatten =
      ((after config xs).attempt x).1.foldl enroll (roster (batches config xs).flatten) := by
  rw [batches_concat, List.flatten_append, List.flatten_singleton, roster, List.foldl_append]
  rfl

theorem holders_pos_of_mem_roster {config : Config} {xs : List Reading} {id : DeviceId}
    (h : id ∈ roster (batches config xs).flatten) : 0 < holders id (after config xs).devices := by
  induction xs using List.reverseRecOn with
  | nil => contradiction
  | append_singleton xs x ih =>
    have hstep := holders_attempt config xs x id
    have hle := departures_attempt_le config xs x id
    rw [roster_concat, mem_foldl_attempt] at h
    rw [after_concat]
    rcases h with ⟨hmem, hgone⟩ | hcome
    · have hold := ih hmem
      omega
    · omega

/-- An id that is attached at one place at most at any time is on the roster while it is
attached. -/
theorem mem_roster_of_holders_pos {config : Config} {xs : List Reading} {id : DeviceId}
    (honce : ∀ ys, ys <+: xs → holders id (after config ys).devices ≤ 1)
    (h : 0 < holders id (after config xs).devices) : id ∈ roster (batches config xs).flatten := by
  induction xs using List.reverseRecOn with
  | nil => contradiction
  | append_singleton xs x ih =>
    have hstep := holders_attempt config xs x id
    have hprefix : xs <+: xs ++ [x] := List.prefix_append xs [x]
    have hold := honce xs hprefix
    rw [after_concat] at h
    rw [roster_concat, mem_foldl_attempt]
    by_cases hcome : 0 < arrivals id ((after config xs).attempt x).1
    · exact .inr hcome
    · -- Nothing comes, so what is attached now was attached before and has not gone.
      refine .inl ⟨ih (fun ys hys => honce ys (hys.trans hprefix)) ?_, ?_⟩ <;> omega

theorem isSome_locationOf?_iff (r : MountRegistry) (id : DeviceId) :
    (Registry.locationOf? r id.text).isSome = true ↔ 0 < holders id (Registry.attached r) := by
  rw [locationOf?_text, Option.isSome_map, List.find?_isSome, holders_pos_iff]
  simp

/-- The events of a history count the mounts of each id, so the id is attached exactly while more
have come than gone. The set of ids that the events leave holds attached ids only, and all of those
that were never attached at two places at once; the departure of one of these, unless it arrives
again in the same batch, means that it is attached no more. -/
theorem roster_history (config : Config) (xs : List Reading) (id : DeviceId) :
    let r := after config xs
    let es := (batches config xs).flatten
    arrivals id es = departures id es + holders id (Registry.attached r) ∧
      ((Registry.locationOf? r id.text).isSome = true ↔ departures id es < arrivals id es) ∧
      (id ∈ roster es → (Registry.locationOf? r id.text).isSome = true) ∧
      ((∀ ys, ys <+: xs → holders id (Registry.attached (after config ys)) ≤ 1) →
        (id ∈ roster es ↔ (Registry.locationOf? r id.text).isSome = true) ∧
        ∀ x, 0 < departures id (r.attempt x).1 → arrivals id (r.attempt x).1 = 0 →
          Registry.locationOf? (after config (xs ++ [x])) id.text = none) := by
  intro r es
  have hcount : arrivals id es = departures id es + holders id (Registry.attached r) :=
    holders_batches config xs id
  have hsubset : id ∈ roster es → (Registry.locationOf? r id.text).isSome = true := fun h =>
    (isSome_locationOf?_iff r id).2 (holders_pos_of_mem_roster h)
  refine ⟨hcount, ?_, hsubset, fun honce => ⟨⟨hsubset, fun h => ?_⟩, fun x hgone hcome => ?_⟩⟩
  · rw [isSome_locationOf?_iff]
    omega
  · exact mem_roster_of_holders_pos honce ((isSome_locationOf?_iff r id).1 h)
  · have hstep := holders_attempt config xs x id
    have hold := honce xs (List.prefix_refl xs)
    rw [← Option.not_isSome_iff_eq_none, isSome_locationOf?_iff, after_concat]
    change ¬ 0 < holders id ((after config xs).attempt x).2.devices
    change holders id (after config xs).devices ≤ 1 at hold
    change 0 < departures id ((after config xs).attempt x).1 at hgone
    change arrivals id ((after config xs).attempt x).1 = 0 at hcome
    omega

theorem roster_of_returning_disk :
    let first := plainTree "/dev/sdb /u vfat rw 0 0\n" [("sdb", "1\n")]
    let second := plainTree "/dev/sdc /u vfat rw 0 0\n" [("sdc", "1\n")]
    let xs : List Reading := [⟨first, ⟨10, 0⟩⟩, ⟨second, ⟨20, 0⟩⟩, ⟨first, ⟨30, 0⟩⟩]
    let id := DeviceId.make .withoutDcim "DEV:sdb"
    (∀ ys, ys <+: xs → holders id (Registry.attached (after plainConfig ys)) ≤ 1) ∧
      (Registry.locationOf? (after plainConfig xs) id.text).isSome = true ∧
      id ∈ roster (batches plainConfig xs).flatten ∧
      Registry.locationOf? (after plainConfig (xs ++ [⟨second, ⟨40, 0⟩⟩])) id.text = none := by
  intro first second xs id
  have honce : ∀ ys, ys <+: xs → holders id (Registry.attached (after plainConfig ys)) ≤ 1 := by
    have hinits : ∀ ys ∈ xs.inits, holders id (Registry.attached (after plainConfig ys)) ≤ 1 := by
      decide +kernel
    exact fun ys hys => hinits ys ((List.mem_inits ys xs).2 hys)
  have hattached : (Registry.locationOf? (after plainConfig xs) id.text).isSome = true := by
    decide +kernel
  have hleft : 0 < departures id ((after plainConfig xs).attempt ⟨second, ⟨40, 0⟩⟩).1 := by
    decide +kernel
  have hnew : arrivals id ((after plainConfig xs).attempt ⟨second, ⟨40, 0⟩⟩).1 = 0 := by
    decide +kernel
  -- Everything is computed by now, and the unifier is kept from computing it again.
  clear_value xs id second
  obtain ⟨-, -, -, hroster⟩ := roster_history plainConfig xs id
  obtain ⟨hiff, hgone⟩ := hroster honce
  exact ⟨honce, hattached, hiff.2 hattached, hgone ⟨second, ⟨40, 0⟩⟩ hleft hnew⟩

/-- A disk is mounted at two places and unmounted at one of them: its departure is announced, and it
stays attached. -/
theorem roster_loses_second_mount :
    let table := "/dev/sdb /u vfat rw 0 0\n"
    let both := plainTree (table ++ "/dev/sdb /v vfat rw 0 0\n") [("sdb", "1\n")]
    let xs : List Reading := [⟨both, ⟨10, 0⟩⟩, ⟨plainTree table [("sdb", "1\n")], ⟨20, 0⟩⟩]
    let id := DeviceId.make .withoutDcim "DEV:sdb"
    id ∉ roster (batches plainConfig xs).flatten ∧
      (Registry.locationOf? (after plainConfig xs) id.text).isSome = true := by
  decide +kernel

end MountRegistry

end Hotplug
