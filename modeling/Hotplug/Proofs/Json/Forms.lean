import Hotplug.Proofs.Config.Json
import Hotplug.Proofs.Event.Json
/-!
# All forms in JSON, there and back

Ids, kinds, records of devices, configurations and events are read back from what is written for
them, and what has been read from any text can be written and comes back (`json_round_trip`). That
writing is possible is a condition on paths and numbers (`Writable`), which everything that is read
meets; that an instant is read back from its text is assumed where an instant is written.
-/

namespace Hotplug

open Json (Reader ReadsBack Yields recordForms?)

namespace Json

variable {α : Type} {value : Reader α} {forms? : α → Option (List String)} {Writable Assumed : α → Prop}

/-- Values that can be written are read back, and so are values that have been read, whatever text
they have been read from. Of both something may be assumed. -/
structure RoundTrips (value : Reader α) (forms? : α → Option (List String))
    (Writable Assumed : α → Prop) : Prop where
  readsBack : ∀ a, Writable a → Assumed a → ReadsBack value forms? a
  settles : ∀ text a, run value text = .ok a → Assumed a → ReadsBack value forms? a

theorem RoundTrips.of_yields (hback : ∀ a, Writable a → Assumed a → ReadsBack value forms? a)
    (hread : Yields value Writable) : RoundTrips value forms? Writable Assumed where
  readsBack := hback
  settles text a ha := by
    obtain ⟨rest, hvalue, -⟩ := run_eq_ok_iff.1 ha
    exact hback a (hread text.toList a rest hvalue)

end Json

open Json (RoundTrips)

def Always {α : Type} (_ : α) : Prop := True

theorem DeviceId.roundTrips : RoundTrips read (fun id => some [id.toJson]) Always Always :=
  .of_yields (fun id _ _ => id.readsBack) (Json.yields_true _)

theorem DeviceKind.roundTrips : RoundTrips read (fun k => some [k.toJson]) Always Always :=
  .of_yields (fun k _ _ => k.readsBack) (Json.yields_true _)

theorem PathOwner.roundTrips :
    RoundTrips read (recordForms? toRecord?) (fun o => o.relativePath.IsText) Always :=
  .of_yields (fun _ ho _ => readsBack ho) yields_read

theorem AttachedDevice.roundTrips :
    RoundTrips read (recordForms? toRecord?) (fun d => d.location.IsText)
      (fun d => d.attachedAt.Told) :=
  .of_yields (fun _ hd htold => readsBack hd htold) yields_read

theorem Config.roundTrips : RoundTrips read (recordForms? toRecord?) Writable Always :=
  .of_yields (fun _ hc _ => readsBack hc) yields_read

theorem Event.roundTrips :
    RoundTrips read (recordForms? toRecord?) (fun e => e.location.IsText) Always :=
  .of_yields (fun _ he _ => readsBack he) yields_read

theorem Event.isText_of_recordForms? {e : Event} {texts : List String}
    (h : recordForms? toRecord? e = some texts) : e.location.IsText := by
  obtain ⟨r, hr, -⟩ := Option.map_eq_some_iff.1 h
  cases e <;>
  · obtain ⟨_, hs, -⟩ := Option.bind_eq_some_iff.1 hr
    exact Path.isText_of_toString? hs

/-- Everything that can be written in JSON is read back from it, whatever its texts and numbers are.
Everything that has been read, from whatever text, can be written and is read back. An event is
never read as one of the other kind. -/
theorem json_round_trip :
    RoundTrips DeviceId.read (fun id => some [id.toJson]) Always Always ∧
      RoundTrips DeviceKind.read (fun k => some [k.toJson]) Always Always ∧
      RoundTrips PathOwner.read (recordForms? PathOwner.toRecord?)
        (fun o => o.relativePath.IsText) Always ∧
      RoundTrips AttachedDevice.read (recordForms? AttachedDevice.toRecord?)
        (fun d => d.location.IsText) (fun d => d.attachedAt.Told) ∧
      RoundTrips Config.read (recordForms? Config.toRecord?) Config.Writable Always ∧
      RoundTrips Event.read (recordForms? Event.toRecord?) (fun e => e.location.IsText) Always ∧
      ∀ (e e' : Event) (texts : List String), recordForms? Event.toRecord? e = some texts →
        ∀ text ∈ texts, Json.run Event.read text = .ok e' → e'.isAttach = e.isAttach := by
  refine ⟨DeviceId.roundTrips, DeviceKind.roundTrips, PathOwner.roundTrips,
    AttachedDevice.roundTrips, Config.roundTrips, Event.roundTrips, ?_⟩
  intro e e' texts hforms text htext he'
  obtain ⟨texts', hforms', hback⟩ := Event.readsBack (Event.isText_of_recordForms? hforms)
  obtain rfl : texts = texts' := Option.some.inj (hforms.symm.trans hforms')
  rw [(hback text htext).1] at he'
  rw [Except.ok.inj he']

def quotedDevice : AttachedDevice where
  id := .make .mtp "a:\"\\"
  name := "\x01\n\x7f \\\" 😀"
  location := .ofString "/mnt/😀\t\"x\""
  attachedAt := ⟨1700000000, 250000000⟩

def widestConfig : Config :=
  { Config.default with pollIntervalSecs := maxWord, eventChannelCapacity := maxWord }

def shortConfig : Config :=
  { Config.default with mountsPath := .ofString "/m", sysfsPath := .ofString "/s" }

theorem json_round_trip_quoted :
    (quotedDevice.location.IsText ∧ quotedDevice.attachedAt.Told ∧
      ReadsBack AttachedDevice.read (recordForms? AttachedDevice.toRecord?) quotedDevice) ∧
      (widestConfig.Writable ∧
        ReadsBack Config.read (recordForms? Config.toRecord?) widestConfig) ∧
      (Json.run Config.read "[\"/m\", \"/s\"]" = .ok shortConfig ∧
        ReadsBack Config.read (recordForms? Config.toRecord?) shortConfig) ∧
      ∀ text e', Event.toJson? (.detached (.make .mtp "a") (.ofString "")) = some text →
        Json.run Event.read text = .ok e' → e'.isAttach = false := by
  obtain ⟨-, -, -, hdevice, hconfig, -, hevent⟩ := json_round_trip
  have htext : quotedDevice.location.IsText := ⟨_, rfl⟩
  have htold : quotedDevice.attachedAt.Told := by decide +kernel
  have hwide : widestConfig.Writable := { Config.writable_default with
    pollIntervalSecs := Nat.le_refl _
    eventChannelCapacity := Nat.le_refl _ }
  have hshort : Json.run Config.read "[\"/m\", \"/s\"]" = .ok shortConfig := by rfl
  refine ⟨⟨htext, htold, hdevice.readsBack _ htext htold⟩,
    ⟨hwide, hconfig.readsBack _ hwide trivial⟩, ⟨hshort, hconfig.settles _ _ hshort trivial⟩, ?_⟩
  intro text e' hjson he'
  obtain ⟨r, hr, rfl⟩ := Option.map_eq_some_iff.1 hjson
  have hforms : recordForms? Event.toRecord? (.detached (.make .mtp "a") (.ofString "")) =
      some [Json.compact r, Json.pretty r] := by rw [recordForms?, hr, Option.map_some]
  exact hevent _ e' _ hforms _ (List.mem_cons_self ..) he'

end Hotplug
