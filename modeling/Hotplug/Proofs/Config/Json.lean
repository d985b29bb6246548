import Hotplug.Config.Json
import Hotplug.Proofs.Device.Json
/-!
# Configurations in JSON, there and back

A configuration can be written if its paths are texts, and is read back if its numbers have 64 bits.
Both hold of every configuration that has been read, whichever of its fields were given.
-/

namespace Hotplug.Config

open Json (Spells Yields ReadsBack Gathers Layout)

/-- The paths are texts and the numbers have 64 bits. -/
structure Writable (c : Config) : Prop where
  mountsPath : c.mountsPath.IsText
  sysfsPath : c.sysfsPath.IsText
  diskByUuidPath : c.diskByUuidPath.IsText
  diskByLabelPath : c.diskByLabelPath.IsText
  pollIntervalSecs : c.pollIntervalSecs ≤ maxWord
  eventChannelCapacity : c.eventChannelCapacity ≤ maxWord

theorem writable_default : Writable default :=
  ⟨⟨_, rfl⟩, ⟨_, rfl⟩, ⟨_, rfl⟩, ⟨_, rfl⟩, by decide, by decide⟩

def given (c : Config) : Given where
  mountsPath := some c.mountsPath
  sysfsPath := some c.sysfsPath
  diskByUuidPath := some c.diskByUuidPath
  diskByLabelPath := some c.diskByLabelPath
  pollIntervalSecs := some c.pollIntervalSecs
  eventChannelCapacity := some c.eventChannelCapacity

theorem gathers (l : Layout) {c : Config} (h : c.Writable) {mounts sysfs uuid label : String}
    (hmounts : c.mountsPath = .ofString mounts) (hsysfs : c.sysfsPath = .ofString sysfs)
    (huuid : c.diskByUuidPath = .ofString uuid) (hlabel : c.diskByLabelPath = .ofString label) :
    Gathers member l {}
      [("mountsPath", .text mounts), ("sysfsPath", .text sysfs), ("diskByUuidPath", .text uuid),
        ("diskByLabelPath", .text label), ("pollIntervalSecs", .number c.pollIntervalSecs),
        ("eventChannelCapacity", .number c.eventChannelCapacity)]
      c.given := by
  rw [given, hmounts, hsysfs, huuid, hlabel]
  refine .cons (Path.spells_read l.gap_blank mounts).field ?_
  refine .cons (Path.spells_read l.gap_blank sysfs).field ?_
  refine .cons (Path.spells_read l.gap_blank uuid).field ?_
  refine .cons (Path.spells_read l.gap_blank label).field ?_
  refine .cons (Spells.natural l.gap_blank h.pollIntervalSecs).field ?_
  exact .cons (Spells.natural l.gap_blank h.eventChannelCapacity).field (.nil _)

theorem readsBack {c : Config} (h : c.Writable) :
    ReadsBack read (Json.recordForms? toRecord?) c := by
  obtain ⟨mounts, hmounts⟩ := h.mountsPath
  obtain ⟨sysfs, hsysfs⟩ := h.sysfsPath
  obtain ⟨uuid, huuid⟩ := h.diskByUuidPath
  obtain ⟨label, hlabel⟩ := h.diskByLabelPath
  refine .record ?_ (List.cons_ne_nil _ _) fun l =>
    .record (gathers l h hmounts hsysfs huuid hlabel) rfl
  rw [toRecord?, hmounts, hsysfs, huuid, hlabel]
  simp only [Path.toString?_ofString]
  rfl

structure Given.Sound (g : Given) : Prop where
  mountsPath : ∀ p ∈ g.mountsPath, p.IsText
  sysfsPath : ∀ p ∈ g.sysfsPath, p.IsText
  diskByUuidPath : ∀ p ∈ g.diskByUuidPath, p.IsText
  diskByLabelPath : ∀ p ∈ g.diskByLabelPath, p.IsText
  pollIntervalSecs : ∀ n ∈ g.pollIntervalSecs, n ≤ maxWord
  eventChannelCapacity : ∀ n ∈ g.eventChannelCapacity, n ≤ maxWord

theorem Given.sound_empty : Given.Sound {} :=
  ⟨nofun, nofun, nofun, nofun, nofun, nofun⟩

theorem getD_of_forall_mem {α : Type} {P : α → Prop} {a? : Option α} {a : α}
    (h : ∀ b ∈ a?, P b) (ha : P a) : P (a?.getD a) := by
  cases a? with
  | none => exact ha
  | some b => exact h b rfl

theorem Given.Sound.writable {g : Given} (h : g.Sound) : Writable (ofGiven g) where
  mountsPath := getD_of_forall_mem h.mountsPath writable_default.mountsPath
  sysfsPath := getD_of_forall_mem h.sysfsPath writable_default.sysfsPath
  diskByUuidPath := getD_of_forall_mem h.diskByUuidPath writable_default.diskByUuidPath
  diskByLabelPath := getD_of_forall_mem h.diskByLabelPath writable_default.diskByLabelPath
  pollIntervalSecs := getD_of_forall_mem h.pollIntervalSecs writable_default.pollIntervalSecs
  eventChannelCapacity :=
    getD_of_forall_mem h.eventChannelCapacity writable_default.eventChannelCapacity

theorem yields_member (g : Given) (key : String) (h : g.Sound) :
    Yields (member g key) Given.Sound := by
  unfold member
  split
  · exact Path.yields_read.once.map fun _ hp => { h with mountsPath := hp }
  · exact Path.yields_read.once.map fun _ hp => { h with sysfsPath := hp }
  · exact Path.yields_read.once.map fun _ hp => { h with diskByUuidPath := hp }
  · exact Path.yields_read.once.map fun _ hp => { h with diskByLabelPath := hp }
  · exact Json.yields_natural.once.map fun _ hn => { h with pollIntervalSecs := hn }
  · exact Json.yields_natural.once.map fun _ hn => { h with eventChannelCapacity := hn }
  · exact .of_bind fun _ => Json.yields_pure h

theorem yields_read : Yields read Writable := by
  refine .record Given.sound_empty yields_member (fun g c hg hc => ?_) ?_
  · obtain rfl := Option.some.inj hc
    exact hg.writable
  · refine Path.yields_read.element?.bind fun mounts hmounts => ?_
    refine Path.yields_read.element?.bind fun sysfs hsysfs => ?_
    refine Path.yields_read.element?.bind fun uuid huuid => ?_
    refine Path.yields_read.element?.bind fun label hlabel => ?_
    refine Json.yields_natural.element?.bind fun secs hsecs => ?_
    refine Json.yields_natural.element?.bind fun capacity hcapacity => ?_
    exact Json.yields_pure
      (Given.Sound.mk hmounts hsysfs huuid hlabel hsecs hcapacity).writable

end Hotplug.Config
