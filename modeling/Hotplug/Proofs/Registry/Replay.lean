import Hotplug.Proofs.Registry.Difference
import Hotplug.Proofs.Registry.History
/-!
# Replaying events

A reader of events keeps a ledger: what is attached at each place, as the events tell it. The events
of a reading lead from the ledger of the devices before it to that of the devices after it
(`accepts_difference`, `replay_difference`): each departure closes the posting that an arrival made,
and each arrival finds its place empty. So the events of a whole history, replayed from nothing,
give the devices attached at its end (`replay_history`).
-/

namespace Hotplug

open AttachedDevice (Ascending)
open MountRegistry (recordAt? difference)

/-- What events tell of an attached device. -/
structure Posting where
  id : DeviceId
  name : String
  location : Path
deriving DecidableEq, Repr

def AttachedDevice.posting (d : AttachedDevice) : Posting :=
  ⟨d.id, d.name, d.location⟩

/-- The posting at each place. -/
abbrev Ledger := Path → Option Posting

namespace Ledger

def empty : Ledger := fun _ => none

def apply (l : Ledger) : Event → Ledger
  | .attached id name location => fun p =>
    if location.Same p then some ⟨id, name, location⟩ else l p
  | .detached _ location => fun p => if location.Same p then none else l p

def replay (l : Ledger) (es : List Event) : Ledger :=
  es.foldl apply l

/-- An event that can come next: an arrival at an empty place, or the departure of the device that
arrived there, under the id and the location it arrived with. -/
def Fits (l : Ledger) : Event → Prop
  | .attached _ _ location => l location = none
  | .detached id location => ∃ name, l location = some ⟨id, name, location⟩

/-- Each of the events can come next when those before it have been. -/
def Accepts (l : Ledger) (es : List Event) : Prop :=
  ∀ before e rest, es = before ++ e :: rest → (l.replay before).Fits e

def ofDevices (ds : List AttachedDevice) : Ledger := fun p =>
  (recordAt? ds p).map (·.posting)

theorem replay_append (l : Ledger) (es fs : List Event) :
    l.replay (es ++ fs) = (l.replay es).replay fs :=
  List.foldl_append

@[simp] theorem accepts_nil (l : Ledger) : l.Accepts [] := by
  intro before e rest h
  simp at h

theorem accepts_cons (l : Ledger) (e : Event) (es : List Event) :
    l.Accepts (e :: es) ↔ l.Fits e ∧ (l.apply e).Accepts es := by
  constructor
  · intro h
    exact ⟨h [] e es rfl, fun before f rest hes => h (e :: before) f rest (by rw [hes]; rfl)⟩
  · rintro ⟨hfits, haccepts⟩ before f rest h
    cases before with
    | nil =>
      obtain ⟨rfl, -⟩ := List.cons.inj h
      exact hfits
    | cons b before =>
      obtain ⟨rfl, hes⟩ := List.cons.inj h
      exact haccepts before f rest hes

theorem accepts_append (l : Ledger) (es fs : List Event) :
    l.Accepts (es ++ fs) ↔ l.Accepts es ∧ (l.replay es).Accepts fs := by
  induction es generalizing l with
  | nil => simp [replay]
  | cons e es ih =>
    rw [List.cons_append, accepts_cons, accepts_cons, ih, and_assoc]
    rfl

theorem replay_departures (l : Ledger) (ds : List AttachedDevice) (p : Path) :
    l.replay (ds.map .departure) p = if (recordAt? ds p).isSome then none else l p := by
  induction ds generalizing l with
  | nil => rfl
  | cons d ds ih =>
    rw [List.map_cons, replay, List.foldl_cons, ← replay, ih, MountRegistry.recordAt?_cons]
    by_cases h : d.location.Same p <;> simp [apply, Event.departure, h]

theorem accepts_departures {l : Ledger} {ds : List AttachedDevice} (hds : Ascending ds)
    (h : ∀ d ∈ ds, l d.location = some d.posting) : l.Accepts (ds.map .departure) := by
  induction ds generalizing l with
  | nil => exact accepts_nil l
  | cons d ds ih =>
    obtain ⟨hd, hds⟩ := List.pairwise_cons.1 hds
    refine (accepts_cons _ _ _).2 ⟨⟨d.name, h d List.mem_cons_self⟩, ih hds fun e he => ?_⟩
    -- The other devices are elsewhere, so this departure leaves their postings alone.
    have hne : ¬ d.location.Same e.location := Path.not_same_of_lt (hd e he)
    simp [apply, Event.departure, hne, h e (List.mem_cons_of_mem _ he)]

theorem replay_arrivals {l : Ledger} {ds : List AttachedDevice} (hds : Ascending ds) (p : Path) :
    l.replay (ds.map .arrival) p = (ofDevices ds p).or (l p) := by
  induction ds generalizing l with
  | nil => rfl
  | cons d ds ih =>
    rw [List.map_cons, replay, List.foldl_cons, ← replay, ih (List.pairwise_cons.1 hds).2,
      ofDevices, ofDevices, MountRegistry.recordAt?_cons]
    by_cases h : d.location.Same p
    · have hrest := MountRegistry.recordAt?_tail_eq_none hds h
      simp [apply, Event.arrival, AttachedDevice.posting, h, hrest]
    · simp [apply, Event.arrival, h]

theorem accepts_arrivals {l : Ledger} {ds : List AttachedDevice} (hds : Ascending ds)
    (h : ∀ d ∈ ds, l d.location = none) : l.Accepts (ds.map .arrival) := by
  induction ds generalizing l with
  | nil => exact accepts_nil l
  | cons d ds ih =>
    obtain ⟨hd, hds⟩ := List.pairwise_cons.1 hds
    refine (accepts_cons _ _ _).2 ⟨h d List.mem_cons_self, ih hds fun e he => ?_⟩
    have hne : ¬ d.location.Same e.location := Path.not_same_of_lt (hd e he)
    simp [apply, Event.arrival, hne, h e (List.mem_cons_of_mem _ he)]

section Difference

variable {previous current : List AttachedDevice}

def Persists (previous current : List AttachedDevice) : Prop :=
  ∀ p a b, recordAt? previous p = some a → recordAt? current p = some b → a.id = b.id → a = b

theorem accepts_difference (hprevious : Ascending previous) (hcurrent : Ascending current) :
    (ofDevices previous).Accepts (difference previous current) := by
  rw [MountRegistry.difference_eq, accepts_append]
  constructor
  · apply accepts_departures (MountRegistry.ascending_unmatched hprevious current)
    intro d hd
    have hrecord : recordAt? previous d.location = some d :=
      (MountRegistry.recordAt?_eq_some_iff hprevious).2 ⟨(List.mem_filter.1 hd).1, .refl _⟩
    rw [ofDevices, hrecord, Option.map_some]
  · apply accepts_arrivals (MountRegistry.ascending_unmatched hcurrent previous)
    intro d hd
    obtain ⟨hmem, hnew⟩ := List.mem_filter.1 hd
    have hrecord : recordAt? current d.location = some d :=
      (MountRegistry.recordAt?_eq_some_iff hcurrent).2 ⟨hmem, .refl _⟩
    rw [replay_departures, MountRegistry.recordAt?_unmatched hprevious, hrecord, ofDevices]
    -- Either the place was empty, or the device there has another id and departs.
    cases hold : recordAt? previous d.location with
    | none => simp
    | some a =>
      have hid : a.id ≠ d.id := by simpa [MountRegistry.isUnchanged, hold] using hnew
      simp [Option.filter_some, hid.symm]

theorem replay_difference (hprevious : Ascending previous) (hcurrent : Ascending current)
    (hpersists : Persists previous current) :
    (ofDevices previous).replay (difference previous current) = ofDevices current := by
  funext p
  rw [MountRegistry.difference_eq, replay_append,
    replay_arrivals (MountRegistry.ascending_unmatched hcurrent previous), replay_departures,
    ofDevices, MountRegistry.recordAt?_unmatched hprevious,
    MountRegistry.recordAt?_unmatched hcurrent, ofDevices, ofDevices]
  cases hold : recordAt? previous p with
  | none => cases recordAt? current p <;> simp [Option.filter_some]
  | some a =>
    cases hnew : recordAt? current p with
    | none => simp [Option.filter_some]
    | some b =>
      by_cases hid : a.id = b.id
      · obtain rfl := hpersists p a b hold hnew hid
        simp [Option.filter_some]
      · simp [Option.filter_some, hid, Ne.symm hid]

end Difference

end Ledger

namespace MountRegistry

theorem ledger_attempt {config : Config} {last : Option FileTree} {r : MountRegistry}
    (h : Tracks config last r) (x : Reading) :
    (r.attempt x).1.Pairwise Event.Precedes ∧
      (Ledger.ofDevices r.devices).Accepts (r.attempt x).1 ∧
      (Ledger.ofDevices r.devices).replay (r.attempt x).1 =
        Ledger.ofDevices (r.attempt x).2.devices := by
  rw [attempt]
  split
  next out hout =>
    obtain ⟨-, hevents, hafter⟩ := refresh_eq_ok_iff.1 hout
    have hsurvey := ascending_survey r.config x.tree x.now r.devices
    rw [hevents, hafter]
    exact ⟨pairwise_difference h.ascending hsurvey,
      Ledger.accepts_difference h.ascending hsurvey,
      Ledger.replay_difference h.ascending hsurvey fun p a b =>
        eq_of_id_eq r.config x.tree x.now r.devices⟩
  next => exact ⟨.nil, Ledger.accepts_nil _, rfl⟩

theorem pairwise_batches (config : Config) (xs : List Reading) :
    ∀ batch ∈ batches config xs, batch.Pairwise Event.Precedes := by
  induction xs using List.reverseRecOn with
  | nil => simp [batches, run]
  | append_singleton xs x ih =>
    rw [batches_concat]
    intro batch hbatch
    rcases List.mem_append.1 hbatch with hbatch | hbatch
    · exact ih batch hbatch
    · rw [List.mem_singleton.1 hbatch]
      exact (ledger_attempt (tracks_after config xs) x).1

theorem ledger_batches (config : Config) (xs : List Reading) :
    Ledger.empty.Accepts (batches config xs).flatten ∧
      Ledger.empty.replay (batches config xs).flatten =
        Ledger.ofDevices (after config xs).devices := by
  induction xs using List.reverseRecOn with
  | nil => exact ⟨Ledger.accepts_nil _, rfl⟩
  | append_singleton xs x ih =>
    obtain ⟨haccepts, hreplay⟩ := ih
    obtain ⟨-, hfits, hnext⟩ := ledger_attempt (tracks_after config xs) x
    rw [batches_concat, after_concat, List.flatten_append, List.flatten_singleton,
      Ledger.accepts_append, Ledger.replay_append, hreplay]
    exact ⟨⟨haccepts, hfits⟩, hnext⟩

theorem events_after (config : Config) (xs : List Reading) :
    (after config xs).events =
      (Channel.new config.eventChannelCapacity).sendAll (batches config xs).flatten := by
  induction xs using List.reverseRecOn with
  | nil => rfl
  | append_singleton xs x ih =>
    rw [after_concat, batches_concat, List.flatten_append, List.flatten_singleton,
      events_attempt, ih, Channel.sendAll_append]

/-- A ledger kept from the start holds at any time the attached devices and nothing else. -/
theorem replay_history (config : Config) (xs : List Reading) :
    (∀ batch ∈ batches config xs, batch.Pairwise Event.Precedes) ∧
      Ledger.empty.Accepts (batches config xs).flatten ∧
      Ledger.empty.replay (batches config xs).flatten =
        Ledger.ofDevices (Registry.attached (after config xs)) ∧
      Ascending (Registry.attached (after config xs)) ∧
      (after config xs).events =
        (Channel.new config.eventChannelCapacity).sendAll (batches config xs).flatten ∧
      ∀ x e, (after config xs).refresh x.tree x.now = .error e →
        batches config (xs ++ [x]) = batches config xs ++ [[]] ∧
          after config (xs ++ [x]) = after config xs := by
  obtain ⟨haccepts, hreplay⟩ := ledger_batches config xs
  refine ⟨pairwise_batches config xs, haccepts, hreplay, (tracks_after config xs).ascending,
    events_after config xs, ?_⟩
  intro x e he
  have hattempt : (after config xs).attempt x = ([], after config xs) := by rw [attempt, he]
  rw [batches_concat, after_concat, hattempt]
  exact ⟨rfl, rfl⟩

/-- A disk is mounted, a reading fails, and then another disk is mounted there under another
spelling of its mount point. -/
def swapHistory : List Reading :=
  [⟨plainTree "/dev/sdb /u vfat rw 0 0\n" [("sdb", "1\n")], ⟨10, 0⟩⟩, ⟨default, ⟨20, 0⟩⟩,
    ⟨plainTree "/dev/sdc /u/ vfat rw 0 0\n" [("sdc", "1\n")], ⟨30, 0⟩⟩]

theorem replay_swapHistory :
    (batches plainConfig swapHistory).map (·.map (·.id.text)) =
        [["nodcim:DEV:sdb"], [], ["nodcim:DEV:sdb", "nodcim:DEV:sdc"]] ∧
      Ledger.empty.Accepts (batches plainConfig swapHistory).flatten ∧
      Ledger.empty.replay (batches plainConfig swapHistory).flatten =
        Ledger.ofDevices (Registry.attached (after plainConfig swapHistory)) ∧
      after plainConfig (swapHistory ++ [⟨default, ⟨40, 0⟩⟩]) = after plainConfig swapHistory := by
  obtain ⟨-, haccepts, hreplay, -, -, hfailed⟩ := replay_history plainConfig swapHistory
  have hfail : (after plainConfig swapHistory).refresh default ⟨40, 0⟩ =
      .error (.file .notFound) := by
    rw [refresh_eq_error_iff, (tracks_after plainConfig swapHistory).config_eq]
    exact ⟨.notFound, by decide +kernel, rfl⟩
  refine ⟨by decide +kernel, haccepts, hreplay, ?_⟩
  exact (hfailed ⟨default, ⟨40, 0⟩⟩ _ hfail).2

end MountRegistry

end Hotplug
