import Hotplug.Proofs.Registry.Ascending
import Hotplug.Registry.Memory
import Mathlib.Data.Finmap
import Mathlib.Data.List.Find
import Mathlib.Data.List.Induction
/-!
# The registry in memory as a finite map

A roll is a finite map from ids to devices, on which a call that attaches a present id or detaches an
absent one is refused. The registry answers every call as the roll does and holds the same devices
after it, each under the text of its own id (`Holds.attempt`), so it is the roll after any sequence
of calls (`registry_is_roll`). The events that the calls send are kept beside the roll in a journal.
For each id they alternate, from an arrival on, and the id is present while the last one is an
arrival (`Journal.Regular.enter`).
-/

namespace Hotplug

open Std (OrientedCmp TransCmp)

namespace MemoryRegistry

instance : TransCmp compareKey where
  eq_swap {a b} := (OrientedCmp.eq_swap : compare a.1 b.1 = _)
  isLE_trans {a _ c} hab hbc :=
    (TransCmp.isLE_trans hab hbc : (compare a.1 c.1).isLE = true)

theorem compareKey_eq_iff {a b : String × AttachedDevice} : compareKey a b = .eq ↔ a.1 = b.1 :=
  Std.compare_eq_iff_eq

inductive Call where
  | attach (d : AttachedDevice)
  | detach (id : String)
deriving DecidableEq, Repr

/-- What a call returns, which is a device if it has taken one off. -/
abbrev Answer := Except Error (Option AttachedDevice)

/-- The answer to a call and the registry afterwards. A call that is refused leaves it alone. -/
def attempt (r : MemoryRegistry) : Call → Answer × MemoryRegistry
  | .attach d =>
    match r.attach d with
    | .ok r' => (.ok none, r')
    | .error e => (.error e, r)
  | .detach id =>
    match r.detach id with
    | .ok (d, r') => (.ok (some d), r')
    | .error e => (.error e, r)

def after (capacity : Nat) (cs : List Call) : MemoryRegistry :=
  cs.foldl (fun r c => (r.attempt c).2) (new capacity)

theorem after_concat (capacity : Nat) (cs : List Call) (c : Call) :
    after capacity (cs ++ [c]) = ((after capacity cs).attempt c).2 :=
  List.foldl_concat ..

end MemoryRegistry

open MemoryRegistry (Call Answer)

/-- The devices that are present, by their ids. -/
abbrev Roll := Finmap fun _ : String => AttachedDevice

namespace Roll

def answer (m : Roll) : Call → Answer
  | .attach d => if d.id.text ∈ m then .error (.deviceAlreadyAttached d.id.text) else .ok none
  | .detach id =>
    match m.lookup id with
    | some d => .ok (some d)
    | none => .error (.deviceNotFound id)

def next (m : Roll) : Call → Roll
  | .attach d => if d.id.text ∈ m then m else m.insert d.id.text d
  | .detach id => m.erase id

def event? (m : Roll) : Call → Option Event
  | .attach d => if d.id.text ∈ m then none else some (.arrival d)
  | .detach id => (m.lookup id).map .departure

theorem erase_of_lookup {m : Roll} {id : String} (h : m.lookup id = none) : m.erase id = m := by
  apply Finmap.ext_lookup
  intro id'
  by_cases hid : id' = id
  · rw [hid, Finmap.lookup_erase, h]
  · rw [Finmap.lookup_erase_ne hid]

end Roll

structure Journal where
  roll : Roll
  events : List Event

namespace Journal

def enter (j : Journal) (c : Call) : Journal :=
  ⟨j.roll.next c, j.events ++ (j.roll.event? c).toList⟩

def ofCalls (cs : List Call) : Journal :=
  cs.foldl enter ⟨∅, []⟩

theorem ofCalls_concat (cs : List Call) (c : Call) : ofCalls (cs ++ [c]) = (ofCalls cs).enter c :=
  List.foldl_concat ..

/-- The events of an id, arrivals as `true`. -/
def turns (id : String) (es : List Event) : List Bool :=
  (es.filter (·.id.text = id)).map (·.isAttach)

/-- Arrivals and departures that take turns, an arrival first; the device is present behind an arrival
and at no other time. -/
structure TakeTurns (bs : List Bool) (present : Prop) : Prop where
  first : bs.head? ≠ some false
  alternating : bs.IsChain (· ≠ ·)
  last : bs.getLast? = some true ↔ present

theorem TakeTurns.concat {bs : List Bool} {present : Prop} {b : Bool} (h : TakeTurns bs present)
    (hb : present ↔ b = false) : TakeTurns (bs ++ [b]) (b = true) := by
  have hlast : bs.getLast? = some true ↔ b = false := h.last.trans hb
  refine ⟨?_, ?_, by simp⟩
  · cases bs with
    | nil => cases b <;> simp_all
    | cons c cs => exact h.first
  · rw [List.isChain_append]
    refine ⟨h.alternating, List.isChain_singleton b, fun x hx y hy => ?_⟩
    obtain rfl : b = y := by simpa using hy
    have hx : bs.getLast? = some x := hx
    cases x <;> cases b <;> simp_all

theorem turns_concat (id : String) (es : List Event) (e : Event) :
    turns id (es ++ [e]) =
      if e.id.text = id then turns id es ++ [e.isAttach] else turns id es := by
  by_cases h : e.id.text = id <;> simp [turns, List.filter_append, h]

/-- What holds of every journal: a device is kept under its own id, and the events of each id take
turns. -/
structure Regular (j : Journal) : Prop where
  id_eq : ∀ id d, j.roll.lookup id = some d → d.id.text = id
  turns : ∀ id, TakeTurns (turns id j.events) (id ∈ j.roll)

theorem Regular.arrive {j : Journal} (h : j.Regular) {d : AttachedDevice}
    (hd : d.id.text ∉ j.roll) :
    Regular ⟨j.roll.insert d.id.text d, j.events ++ [.arrival d]⟩ where
  id_eq id e he := by
    by_cases hid : id = d.id.text
    · subst hid
      rw [Finmap.lookup_insert] at he
      rw [Option.some.inj he]
    · rw [Finmap.lookup_insert_of_ne _ hid] at he
      exact h.id_eq id e he
  turns id := by
    rw [turns_concat, Finmap.mem_insert]
    by_cases hid : d.id.text = id
    · subst hid
      have hturns := (h.turns d.id.text).concat (b := true) (by simp [hd])
      simpa [Event.arrival, Event.id, Event.isAttach] using hturns
    · simpa [Event.arrival, Event.id, hid, Ne.symm hid] using h.turns id

theorem Regular.depart {j : Journal} (h : j.Regular) {id : String} {d : AttachedDevice}
    (hd : j.roll.lookup id = some d) :
    Regular ⟨j.roll.erase id, j.events ++ [.departure d]⟩ where
  id_eq id' e he := by
    by_cases hid : id' = id
    · subst hid
      rw [Finmap.lookup_erase] at he
      contradiction
    · rw [Finmap.lookup_erase_ne hid] at he
      exact h.id_eq id' e he
  turns id' := by
    have hpresent : id ∈ j.roll := Finmap.mem_of_lookup_eq_some hd
    rw [turns_concat, Finmap.mem_erase]
    have hdid : d.id.text = id := h.id_eq id d hd
    by_cases hid : id = id'
    · subst hid
      have hturns := (h.turns id).concat (b := false) (by simp [hpresent])
      simpa [Event.departure, Event.id, Event.isAttach, hdid] using hturns
    · simpa [Event.departure, Event.id, hdid, hid, Ne.symm hid] using h.turns id'

theorem Regular.enter {j : Journal} (h : j.Regular) (c : Call) : (j.enter c).Regular := by
  cases c with
  | attach d =>
    by_cases hd : d.id.text ∈ j.roll
    · simpa [Journal.enter, Roll.next, Roll.event?, hd] using h
    · simpa [Journal.enter, Roll.next, Roll.event?, hd] using h.arrive hd
  | detach id =>
    cases hd : j.roll.lookup id with
    | none =>
      simpa [Journal.enter, Roll.next, Roll.event?, hd, Roll.erase_of_lookup hd] using h
    | some d => simpa [Journal.enter, Roll.next, Roll.event?, hd] using h.depart hd

theorem regular_ofCalls (cs : List Call) : (ofCalls cs).Regular := by
  induction cs using List.reverseRecOn with
  | nil =>
    refine ⟨by simp [ofCalls], fun id => ⟨by simp [ofCalls, Journal.turns],
      List.isChain_nil, ?_⟩⟩
    simp [ofCalls, Journal.turns, Finmap.notMem_empty]
  | append_singleton cs c ih =>
    rw [ofCalls_concat]
    exact ih.enter c

/-- A device that is present was put there by a call that attached it, and no call behind that one
takes it off. -/
theorem exists_attach_of_lookup {cs : List Call} {id : String} {d : AttachedDevice}
    (h : (ofCalls cs).roll.lookup id = some d) :
    ∃ before behind, cs = before ++ .attach d :: behind ∧ d.id.text = id ∧
      id ∉ (ofCalls before).roll ∧ .detach id ∉ behind := by
  have hid := (regular_ofCalls cs).id_eq id d h
  induction cs using List.reverseRecOn with
  | nil => simp [ofCalls] at h
  | append_singleton cs c ih =>
    rw [ofCalls_concat, Journal.enter] at h
    -- Either the device was there before the last call, or the last call put it there.
    have hcases : ((ofCalls cs).roll.lookup id = some d ∧ c ≠ .detach id) ∨
        (id ∉ (ofCalls cs).roll ∧ c = .attach d) := by
      cases c with
      | attach e =>
        by_cases he : e.id.text ∈ (ofCalls cs).roll
        · rw [Roll.next, if_pos he] at h
          exact .inl ⟨h, by simp⟩
        · rw [Roll.next, if_neg he] at h
          by_cases heid : id = e.id.text
          · rw [heid, Finmap.lookup_insert] at h
            rw [← Option.some.inj h]
            exact .inr ⟨heid ▸ he, rfl⟩
          · rw [Finmap.lookup_insert_of_ne _ heid] at h
            exact .inl ⟨h, by simp⟩
      | detach id' =>
        rw [Roll.next] at h
        by_cases heid : id = id'
        · rw [heid, Finmap.lookup_erase] at h
          contradiction
        · rw [Finmap.lookup_erase_ne heid] at h
          exact .inl ⟨h, by simp [Ne.symm heid]⟩
    rcases hcases with ⟨hold, hc⟩ | ⟨habsent, rfl⟩
    · obtain ⟨before, behind, rfl, -, hbefore, hbehind⟩ := ih hold
      refine ⟨before, behind ++ [c], by simp, hid, hbefore, ?_⟩
      simp [hbehind, Ne.symm hc]
    · exact ⟨cs, [], rfl, hid, habsent, List.not_mem_nil⟩

end Journal

namespace MemoryRegistry

/-- The registry holds the devices of the roll, each once and under the text of its own id. -/
structure Holds (r : MemoryRegistry) (m : Roll) : Prop where
  ascending : r.entries.Pairwise (compareKey · · = .lt)
  id_eq : ∀ e ∈ r.entries, e.2.id.text = e.1
  find?_eq : ∀ id, r.find? id = m.lookup id

theorem holds_new (capacity : Nat) : Holds (new capacity) ∅ where
  ascending := List.Pairwise.nil
  id_eq _ he := absurd he List.not_mem_nil
  find?_eq _ := rfl

theorem find?_insertBy_compareKey (e : String × AttachedDevice)
    (es : List (String × AttachedDevice)) (id : String) :
    (insertBy compareKey e es).find? (·.1 = id) =
      if e.1 = id then some e else es.find? (·.1 = id) := by
  have hp : ∀ a b : String × AttachedDevice, decide (a.1 = id) = true →
      (decide (b.1 = id) = true ↔ compareKey a b = .eq) := by
    intro a b ha
    rw [compareKey_eq_iff, of_decide_eq_true ha, decide_eq_true_iff, eq_comm]
  simpa using find?_insertBy hp e es

theorem find?_eq_some_iff_of_nodup {ds : List AttachedDevice} (h : (ds.map (·.id.text)).Nodup)
    {id : String} {d : AttachedDevice} :
    ds.find? (·.id.text = id) = some d ↔ d ∈ ds ∧ d.id.text = id := by
  constructor
  · intro hd
    exact ⟨List.mem_of_find?_eq_some hd, by simpa using List.find?_some hd⟩
  · rintro ⟨hd, hid⟩
    have hsome : (ds.find? (·.id.text = id)).isSome = true :=
      List.find?_isSome.2 ⟨d, hd, by simpa using hid⟩
    obtain ⟨e, he⟩ := Option.isSome_iff_exists.1 hsome
    have heid : e.id.text = id := by simpa using List.find?_some he
    have hed : e = d :=
      List.inj_on_of_nodup_map h (List.mem_of_find?_eq_some he) hd (heid.trans hid.symm)
    rw [he, hed]

section Holds

variable {r : MemoryRegistry} {m : Roll}

theorem Holds.attach_of_mem (h : Holds r m) {d : AttachedDevice} (hd : d.id.text ∈ m) :
    r.attach d = .error (.deviceAlreadyAttached d.id.text) := by
  obtain ⟨e, he⟩ := Finmap.mem_iff.1 hd
  rw [attach, h.find?_eq, he]

theorem Holds.attach_of_notMem (h : Holds r m) {d : AttachedDevice} (hd : d.id.text ∉ m) :
    r.attach d =
      .ok ⟨insertBy compareKey (d.id.text, d) r.entries, r.events.send (.arrival d)⟩ := by
  rw [attach, h.find?_eq, Finmap.lookup_eq_none.2 hd]

theorem Holds.insert (h : Holds r m) (d : AttachedDevice) (events : Channel Event) :
    Holds ⟨insertBy compareKey (d.id.text, d) r.entries, events⟩ (m.insert d.id.text d) where
  ascending := pairwise_insertBy (d.id.text, d) h.ascending
  id_eq e he := by
    rcases mem_insertBy he with rfl | he
    · rfl
    · exact h.id_eq e he
  find?_eq id := by
    rw [find?, find?_insertBy_compareKey]
    by_cases hid : d.id.text = id
    · rw [if_pos hid, Option.map_some, ← hid, Finmap.lookup_insert]
    · rw [if_neg hid, Finmap.lookup_insert_of_ne _ (Ne.symm hid)]
      exact h.find?_eq id

theorem Holds.erase (h : Holds r m) (id : String) (events : Channel Event) :
    Holds ⟨r.entries.filter (·.1 ≠ id), events⟩ (m.erase id) where
  ascending := h.ascending.filter _
  id_eq e he := h.id_eq e (List.mem_filter.1 he).1
  find?_eq id' := by
    rw [find?, List.find?_filter]
    by_cases hid : id' = id
    · rw [hid, Finmap.lookup_erase, Option.map_eq_none_iff, List.find?_eq_none]
      simp
    · have htest : ∀ e : String × AttachedDevice, decide (decide (e.1 ≠ id) = true ∧
          decide (e.1 = id') = true) = decide (e.1 = id') := by
        intro e
        simp only [decide_eq_true_iff, decide_eq_decide, and_iff_right_iff_imp]
        rintro rfl
        exact hid
      simp only [htest]
      rw [Finmap.lookup_erase_ne hid]
      exact h.find?_eq id'

theorem Holds.attempt (h : Holds r m) (c : Call) :
    (r.attempt c).1 = m.answer c ∧ Holds (r.attempt c).2 (m.next c) ∧
      (r.attempt c).2.events = r.events.sendAll (m.event? c).toList := by
  cases c with
  | attach d =>
    by_cases hd : d.id.text ∈ m
    · simp only [MemoryRegistry.attempt, h.attach_of_mem hd, Roll.answer, Roll.next, Roll.event?,
        if_pos hd]
      exact ⟨trivial, h, rfl⟩
    · simp only [MemoryRegistry.attempt, h.attach_of_notMem hd, Roll.answer, Roll.next, Roll.event?,
        if_neg hd]
      exact ⟨trivial, h.insert d _, rfl⟩
  | detach id =>
    have hfind := h.find?_eq id
    simp only [MemoryRegistry.attempt, detach, Roll.answer, Roll.next, Roll.event?]
    cases hd : m.lookup id with
    | none =>
      rw [hd] at hfind
      simp only [hfind, Roll.erase_of_lookup hd]
      exact ⟨trivial, h, rfl⟩
    | some d =>
      rw [hd] at hfind
      simp only [hfind]
      exact ⟨trivial, h.erase id _, rfl⟩

theorem Holds.nodup (h : Holds r m) : (r.devices.map (·.id.text)).Nodup := by
  have hkeys : r.devices.map (·.id.text) = r.entries.map (·.1) := by
    rw [devices, List.map_map]
    exact List.map_congr_left h.id_eq
  rw [hkeys, List.Nodup, List.pairwise_map]
  refine h.ascending.imp fun {a b} hlt hid => ?_
  rw [compareKey_eq_iff.2 hid] at hlt
  contradiction

theorem Holds.find?_devices (h : Holds r m) (id : String) :
    r.find? id = r.devices.find? (·.id.text = id) := by
  rw [find?, devices, List.find?_map]
  refine congrArg _ (List.find?_congr fun e he => ?_)
  rw [Function.comp_apply, h.id_eq e he]

theorem Holds.mem_iff (h : Holds r m) {d : AttachedDevice} :
    d ∈ r.devices ↔ m.lookup d.id.text = some d := by
  rw [← h.find?_eq, h.find?_devices, find?_eq_some_iff_of_nodup h.nodup]
  simp

theorem Holds.size_eq (h : Holds r m) : r.size = m.keys.card := by
  have hkeys : m.keys = (r.devices.map (·.id.text)).toFinset := by
    ext id
    rw [Finmap.mem_keys, Finmap.mem_iff, ← h.find?_eq]
    simp only [h.find?_devices, find?_eq_some_iff_of_nodup h.nodup, List.mem_toFinset,
      List.mem_map]
  rw [hkeys, List.toFinset_card_of_nodup h.nodup, List.length_map, devices, List.length_map]
  rfl

theorem Holds.isEmpty_iff (h : Holds r m) : r.isEmpty = true ↔ m = ∅ := by
  rw [isEmpty, List.isEmpty_iff]
  constructor
  · intro hnil
    apply Finmap.ext_lookup
    intro id
    rw [← h.find?_eq, find?, hnil]
    rfl
  · rintro rfl
    rw [List.eq_nil_iff_forall_not_mem]
    intro e he
    have hlookup := h.mem_iff.1 (List.mem_map_of_mem (f := (·.2)) he)
    rw [Finmap.lookup_empty] at hlookup
    contradiction

theorem Holds.locationOf?_eq (h : Holds r m) {ds : List AttachedDevice}
    (hds : ds.Perm (Registry.attached r)) (id : String) :
    Registry.locationOf? r id = (ds.find? (·.id.text = id)).map (·.location) := by
  have hnodup : (ds.map (·.id.text)).Nodup := (hds.map _).nodup_iff.2 h.nodup
  have hfind : r.find? id = ds.find? (·.id.text = id) := by
    ext d
    rw [h.find?_devices, find?_eq_some_iff_of_nodup h.nodup, find?_eq_some_iff_of_nodup hnodup,
      hds.mem_iff]
    rfl
  change (r.find? id).map _ = _
  rw [hfind]

end Holds

theorem holds_after (capacity : Nat) (cs : List Call) :
    Holds (after capacity cs) (Journal.ofCalls cs).roll ∧
      (after capacity cs).events =
        (Channel.new capacity).sendAll (Journal.ofCalls cs).events := by
  induction cs using List.reverseRecOn with
  | nil => exact ⟨holds_new capacity, rfl⟩
  | append_singleton cs c ih =>
    obtain ⟨hholds, hevents⟩ := ih
    obtain ⟨-, hnext, hsent⟩ := hholds.attempt c
    rw [after_concat, Journal.ofCalls_concat, Journal.enter]
    refine ⟨hnext, ?_⟩
    rw [hsent, hevents, Channel.sendAll_append]

theorem attempt_of_error {r : MemoryRegistry} {c : Call} {e : Error}
    (h : (r.attempt c).1 = .error e) : (r.attempt c).2 = r := by
  cases c with
  | attach d =>
    simp only [attempt] at h ⊢
    split
    next hattach => simp [hattach] at h
    next => rfl
  | detach id =>
    simp only [attempt] at h ⊢
    split
    next hdetach => simp [hdetach] at h
    next => rfl

/-- After any calls the registry is the roll of these calls: it answers the next one as the roll
does, and what it says of its devices is what the roll holds. A call that is refused changes neither
the devices nor what any reader is to get. A device is taken off as it was attached. The events sent
so far take turns for each id. -/
theorem registry_is_roll (capacity : Nat) (cs : List Call) :
    let r := after capacity cs
    let j := Journal.ofCalls cs
    (∀ c, (r.attempt c).1 = j.roll.answer c) ∧
      (∀ c e, (r.attempt c).1 = .error e → after capacity (cs ++ [c]) = r) ∧
      (∀ id d, (r.attempt (.detach id)).1 = .ok (some d) →
        ∃ before behind, cs = before ++ .attach d :: behind ∧ d.id.text = id ∧
          id ∉ (Journal.ofCalls before).roll ∧ .detach id ∉ behind) ∧
      (r.size = j.roll.keys.card ∧ (r.isEmpty = true ↔ j.roll = ∅) ∧
        (∀ d, d ∈ Registry.attached r ↔ j.roll.lookup d.id.text = some d) ∧
        ((Registry.attached r).map (·.id.text)).Nodup ∧
        ∀ id, Registry.locationOf? r id = (j.roll.lookup id).map (·.location)) ∧
      (∀ (ds : List AttachedDevice) (id : String), ds.Perm (Registry.attached r) →
        Registry.locationOf? r id = (ds.find? (·.id.text = id)).map (·.location)) ∧
      r.events = (Channel.new capacity).sendAll j.events ∧
      ∀ id, Journal.TakeTurns (Journal.turns id j.events) (id ∈ j.roll) := by
  intro r j
  obtain ⟨hholds, hevents⟩ := holds_after capacity cs
  have hanswer (c : Call) : (r.attempt c).1 = j.roll.answer c := (hholds.attempt c).1
  refine ⟨hanswer, fun c e he => ?_, fun id d hd => ?_, ?_, fun ds id hds => ?_, hevents,
    (Journal.regular_ofCalls cs).turns⟩
  · rw [after_concat]
    exact attempt_of_error he
  · have hlookup : j.roll.lookup id = some d := by
      rw [hanswer, Roll.answer] at hd
      cases he : j.roll.lookup id with
      | none => simp [he] at hd
      | some e => simpa [he] using hd
    exact Journal.exists_attach_of_lookup hlookup
  · refine ⟨hholds.size_eq, hholds.isEmpty_iff, fun d => hholds.mem_iff, hholds.nodup, fun id => ?_⟩
    rw [← hholds.find?_eq]
    rfl
  · exact hholds.locationOf?_eq hds id

/-- A phone and a stick are attached, another stick of the same id is refused, and so is the
departure of an id that is none. -/
def refusedCalls : List Call :=
  [.attach ⟨.make .mtp "usb:2,5", "Phone", .empty, ⟨10, 0⟩⟩,
    .attach ⟨.make .withoutDcim "UUID:1", "Stick", .ofString "/u", ⟨20, 0⟩⟩,
    .attach ⟨.make .withoutDcim "UUID:1", "Other", .ofString "/v", ⟨30, 0⟩⟩, .detach "stick"]

theorem registry_of_refusedCalls :
    let r := after 0 refusedCalls
    let stick : AttachedDevice := ⟨.make .withoutDcim "UUID:1", "Stick", .ofString "/u", ⟨20, 0⟩⟩
    (r.attempt (.attach stick)).1 = .error (.deviceAlreadyAttached "nodcim:UUID:1") ∧
      after 0 (refusedCalls ++ [.attach stick]) = r ∧
      (r.attempt (.detach "nodcim:UUID:1")).1 = .ok (some stick) ∧
      (∃ before behind, refusedCalls = before ++ .attach stick :: behind ∧
        .detach "nodcim:UUID:1" ∉ behind) ∧
      Registry.locationOf? r "mtp:usb:2,5" =
        ((Registry.attached r).reverse.find? (·.id.text = "mtp:usb:2,5")).map (·.location) := by
  intro r stick
  obtain ⟨-, hrefused, htaken, -, hsearch, -⟩ := registry_is_roll 0 refusedCalls
  have hattach : (r.attempt (.attach stick)).1 = .error (.deviceAlreadyAttached "nodcim:UUID:1") := by
    decide +kernel
  have hdetach : (r.attempt (.detach "nodcim:UUID:1")).1 = .ok (some stick) := by decide +kernel
  obtain ⟨before, behind, hcalls, -, -, hbehind⟩ := htaken _ stick hdetach
  exact ⟨hattach, hrefused _ _ hattach, hdetach, ⟨before, behind, hcalls, hbehind⟩,
    hsearch _ _ (List.reverse_perm _)⟩

end MemoryRegistry

end Hotplug
