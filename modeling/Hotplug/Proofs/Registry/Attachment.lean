import Hotplug.CheckTask
import Hotplug.Proofs.Device.Codec
import Hotplug.Proofs.Registry.MemoryLookup
/-!
# Attached or not

Whether a device is attached, where it is and which devices there are: three questions with one
answer, for every registry that takes the location of an id from the first device that has it
(`Lookup.consistent_of_first`). A task that checks a device does what the check says, whatever it is
woken with, and calls back at most once (`CheckTask.run_waiting`).
-/

namespace Hotplug

namespace Lookup

section

variable {σ : Type} [Registry σ] {s : σ} {id : DeviceId}

theorem checkId_of_fixed (s : σ) (h : id.kind = .fixed) :
    checkId s id = .probe (.ofString id.uniqueId) := by
  rw [checkId, h]

theorem checkId_of_ne_fixed (s : σ) (h : id.kind ≠ .fixed) :
    checkId s id = .known (Registry.locationOf? s id.text).isSome := by
  unfold checkId
  split
  next hfixed => exact absurd hfixed h
  next => rfl

theorem check_text (s : σ) (id : DeviceId) : check s id.text = .ok (checkId s id) := by
  rw [check, DeviceId.trusted_text]
  rfl

theorem kind_ne_fixed_of_isMedia (h : id.isMedia = true) : id.kind ≠ .fixed := by
  intro hfixed
  rw [DeviceId.isMedia, hfixed] at h
  contradiction

/-- The check of a device, the way to it and the list of devices agree. -/
structure Consistent (s : σ) : Prop where
  /-- A device that comes and goes is attached exactly if it has a path, which is that of a device
  with this very id in the list. No path is probed. -/
  removable : ∀ text id, DeviceId.parse text = .ok id → id.kind ≠ .fixed →
    ∃ c path?, check s text = .ok c ∧ pathOf? s text = .ok path? ∧
      c.probes = [] ∧ (∀ found, c.answer found = path?.isSome) ∧
      (path?.isSome = true ↔ ∃ d ∈ Registry.attached s, d.id = id) ∧
      ∀ p ∈ path?, ∃ d ∈ Registry.attached s, d.id = id ∧ d.location = p
  /-- A fixed device is its path, whatever the registry has. That path is probed once. -/
  fixed : ∀ text id, DeviceId.parse text = .ok id → id.kind = .fixed →
    ∃ c, check s text = .ok c ∧ pathOf? s text = .ok (some (.ofString id.uniqueId)) ∧
      c.probes = [.ofString id.uniqueId] ∧
      ∀ found, c.answer found = found (.ofString id.uniqueId)
  media : ∀ d ∈ mediaDevices s, ∃ c, check s d.id.text = .ok c ∧ ∀ found, c.answer found = true

/-- An id leads to the first device that has it. -/
def First (s : σ) : Prop :=
  ∀ text, Registry.locationOf? s text =
    ((Registry.attached s).find? (·.id.text = text)).map (·.location)

theorem First.isSome_iff (h : First s) :
    (Registry.locationOf? s id.text).isSome = true ↔ ∃ d ∈ Registry.attached s, d.id = id := by
  rw [h, Option.isSome_map, List.find?_isSome]
  simp only [decide_eq_true_eq, DeviceId.text_inj]

theorem First.exists_device (h : First s) {p : Path} (hp : Registry.locationOf? s id.text = some p) :
    ∃ d ∈ Registry.attached s, d.id = id ∧ d.location = p := by
  rw [h] at hp
  obtain ⟨d, hd, hlocation⟩ := Option.map_eq_some_iff.1 hp
  have hid : d.id.text = id.text := by simpa using List.find?_some hd
  exact ⟨d, List.mem_of_find?_eq_some hd, DeviceId.text_inj.1 hid, hlocation⟩

theorem consistent_of_first (h : First s) : Consistent s where
  removable text id hid hkind := by
    obtain rfl := DeviceId.text_of_parse hid
    refine ⟨_, _, check_text s id, pathOf?_eq s id, ?_⟩
    rw [checkId_of_ne_fixed s hkind, pathOfId?_of_ne_fixed s hkind]
    exact ⟨rfl, fun _ => rfl, h.isSome_iff, fun p hp => h.exists_device hp⟩
  fixed text id hid hkind := by
    obtain rfl := DeviceId.text_of_parse hid
    refine ⟨_, check_text s id, ?_⟩
    rw [pathOf?_eq, pathOfId?_of_fixed s hkind, checkId_of_fixed s hkind]
    exact ⟨rfl, rfl, fun _ => rfl⟩
  media d hd := by
    obtain ⟨hd, hmedia⟩ := List.mem_filter.1 hd
    refine ⟨_, check_text s d.id, fun _ => ?_⟩
    rw [checkId_of_ne_fixed s (kind_ne_fixed_of_isMedia hmedia)]
    exact h.isSome_iff.2 ⟨d, hd, rfl⟩

end

end Lookup

theorem MountRegistry.first (r : MountRegistry) : Lookup.First r :=
  fun _ => rfl

theorem MemoryRegistry.first_after (capacity : Nat) (cs : List Call) :
    Lookup.First (after capacity cs) :=
  (holds_after capacity cs).1.locationOf?_eq (.refl _)

/-! ## Tasks -/

namespace CheckTask

structure Obeys (c : Check) (replies : List Bool) (r : CheckTask × List Act) : Prop where
  /-- The answer is called back once, after the path that had to be probed for it, if any. -/
  answered : ∀ found, (∀ p ∈ c.probes, replies.head? = some (found p)) →
    r = (done, c.probes.map .probed ++ [.called (c.answer found)])
  /-- There is no call before the probe has replied. -/
  unanswered : c.probes ≠ [] → replies = [] → r.2 = c.probes.map .probed

section

variable {σ : Type} [Registry σ]

def Wake.reply? : Wake σ → Option Bool
  | turn _ => none
  | reply b => some b

/-- The registry at the first turn, and the replies from then on. -/
def firstTurn? : List (Wake σ) → Option (σ × List Bool)
  | [] => none
  | .turn s :: ws => some (s, ws.filterMap Wake.reply?)
  | .reply _ :: ws => firstTurn? ws

theorem run_cons (t : CheckTask) (w : Wake σ) (ws : List (Wake σ)) :
    t.run (w :: ws) = (((t.wake w).1.run ws).1, (t.wake w).2 ++ ((t.wake w).1.run ws).2) :=
  rfl

theorem run_done (ws : List (Wake σ)) : done.run ws = (done, []) := by
  induction ws with
  | nil => rfl
  | cons w ws ih =>
    have hsame : done.run (w :: ws) = done.run ws := by cases w <;> rfl
    rw [hsame, ih]

theorem run_probing (p : Path) (ws : List (Wake σ)) :
    (probing p).run ws =
      match (ws.filterMap Wake.reply?).head? with
      | none => (probing p, [])
      | some b => (done, [.called b]) := by
  induction ws with
  | nil => rfl
  | cons w ws ih =>
    cases w with
    | turn s =>
      have hsame : (probing p).run (.turn s :: ws) = (probing p).run ws := rfl
      rw [hsame, ih]
      rfl
    | reply b =>
      rw [run_cons, wake, run_done]
      rfl

theorem obeys_turn (id : DeviceId) (s : σ) (ws : List (Wake σ)) :
    Obeys (Lookup.checkId s id) (ws.filterMap Wake.reply?)
      ((waiting id).run (.turn s :: ws)) := by
  rw [run_cons, wake]
  cases Lookup.checkId s id with
  | known b =>
    rw [run_done]
    exact ⟨fun _ _ => rfl, fun hprobes => absurd rfl hprobes⟩
  | probe p =>
    simp only [run_probing]
    refine ⟨fun found hfound => ?_, fun _ hreplies => ?_⟩
    · rw [hfound p (List.mem_cons_self ..)]
      rfl
    · rw [hreplies]
      rfl

theorem run_waiting (id : DeviceId) (ws : List (Wake σ)) :
    match firstTurn? ws with
    | none => (waiting id).run ws = (waiting id, [])
    | some (s, replies) => Obeys (Lookup.checkId s id) replies ((waiting id).run ws) := by
  induction ws with
  | nil => rfl
  | cons w ws ih =>
    cases w with
    | turn s => exact obeys_turn id s ws
    | reply b => exact ih

theorem start_text (id : DeviceId) : start id.text = .ok (waiting id) := by
  rw [start, DeviceId.trusted_text]
  rfl

end

end CheckTask

open CheckTask (Wake Obeys)

/-- In every state that either registry can be in, the check of a device, the way to it and the list
of devices agree about every text that is an id. A task that checks such a text starts, waits for its
turn, and then obeys the check: it calls back once, with the answer. -/
theorem attachment_is_consistent :
    (∀ config xs, Lookup.Consistent (MountRegistry.after config xs)) ∧
      (∀ capacity cs, Lookup.Consistent (MemoryRegistry.after capacity cs)) ∧
      ∀ (σ : Type) [Registry σ] (text : String) (id : DeviceId), DeviceId.parse text = .ok id →
        CheckTask.start text = .ok (.waiting id) ∧
        ∀ ws : List (Wake σ),
          match CheckTask.firstTurn? ws with
          | none => (CheckTask.waiting id).run ws = (.waiting id, [])
          | some (s, replies) => ∃ c, Lookup.check s text = .ok c ∧
              Obeys c replies ((CheckTask.waiting id).run ws) := by
  refine ⟨fun config xs => Lookup.consistent_of_first (MountRegistry.first _),
    fun capacity cs => Lookup.consistent_of_first (MemoryRegistry.first_after capacity cs), ?_⟩
  intro σ _ text id hid
  obtain rfl := DeviceId.text_of_parse hid
  refine ⟨CheckTask.start_text id, fun ws => ?_⟩
  have hrun := CheckTask.run_waiting id ws
  split at hrun
  next => exact hrun
  next s replies _ => exact ⟨_, Lookup.check_text s id, hrun⟩

theorem attachment_is_consistent_nested :
    let r := MemoryRegistry.after 4 MemoryRegistry.nestedCalls
    let disk := DeviceId.make .fixed "/m/c/d"
    (∃ c path?, Lookup.check r "nodcim:UUID:1" = .ok c ∧
        Lookup.pathOf? r "nodcim:UUID:1" = .ok path? ∧ c.probes = [] ∧
        ∀ found, c.answer found = path?.isSome) ∧
      (∃ d ∈ Registry.attached r, d.id = disk) ∧
      (∃ c, Lookup.check r "path:/m/c/d" = .ok c ∧ c.probes = [.ofString "/m/c/d"]) ∧
      ∃ c, Lookup.check r "path:/m/c/d" = .ok c ∧
        Obeys c [false] ((CheckTask.waiting disk).run [.reply true, .turn r, .reply false]) := by
  intro r disk
  obtain ⟨-, hmemory, htask⟩ := attachment_is_consistent
  have hconsistent : Lookup.Consistent r := hmemory 4 MemoryRegistry.nestedCalls
  have hstick : DeviceId.parse "nodcim:UUID:1" = .ok (.make .withoutDcim "UUID:1") := rfl
  have hdisk : DeviceId.parse "path:/m/c/d" = .ok disk := rfl
  obtain ⟨c, path?, hcheck, hpath, hprobes, hanswer, -⟩ :=
    hconsistent.removable _ _ hstick (by decide)
  obtain ⟨c', hcheck', -, hprobes', -⟩ := hconsistent.fixed _ _ hdisk (by decide)
  have hunique : disk.uniqueId = "/m/c/d" := DeviceId.uniqueId_make ..
  rw [hunique] at hprobes'
  exact ⟨⟨c, path?, hcheck, hpath, hprobes, hanswer⟩, by decide +kernel,
    ⟨c', hcheck', hprobes'⟩,
    (htask MemoryRegistry _ disk hdisk).2 [.reply true, .turn r, .reply false]⟩

end Hotplug
