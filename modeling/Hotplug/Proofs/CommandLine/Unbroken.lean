import Hotplug.CommandLine.Outcome
import Hotplug.Proofs.Device.Codec
import Hotplug.Proofs.Registry.Unbroken
/-!
# Runs that are never broken off

An id that cannot be taken apart breaks the program off, and so does one that is to be made of an
empty text. `tryOutcome` is a run of the program that makes and takes apart each id in this way, in
the reading of the mount table as well as for the command. It is never broken off, whatever the
arguments, the configuration and the tree (`tryOutcome_eq`).
-/

namespace Hotplug

theorem Utf8.toStringLossy_ne_empty {bs : List UInt8} (h : bs ≠ []) : toStringLossy bs ≠ "" := by
  intro hempty
  refine decodeLossy_ne_nil h ?_
  rw [← String.toList_ofList (l := decodeLossy bs)]
  exact String.toList_eq_nil_iff.2 hempty

namespace DeviceId

def tryCrack (text : String) : Except Crash (DeviceKind × String) :=
  (crack text).mapError .breach

def tryMake (kind : DeviceKind) (uniqueId : String) : Except Crash DeviceId :=
  (makeChecked kind uniqueId).mapError .breach

theorem tryCrack_text (id : DeviceId) : tryCrack id.text = pure (id.kind, id.uniqueId) := by
  rw [tryCrack, crack_text]
  rfl

theorem tryMake_of_ne {kind : DeviceKind} {uniqueId : String} (h : uniqueId ≠ "") :
    tryMake kind uniqueId = pure (make kind uniqueId) := by
  rw [tryMake, makeChecked_of_ne h]
  rfl

end DeviceId

namespace Lookup

section

variable {σ : Type} [Registry σ]

def tryCheck (s : σ) (id : String) : Except Crash Check :=
  (check s id).mapError .breach

def tryPath (s : σ) (id : String) : Except Crash (Option Path) :=
  (pathOf? s id).mapError .breach

def tryFixedOwner (p : Path) : Except Crash PathOwner := do
  let id ← DeviceId.tryMake .fixed p.toStringLossy
  return ⟨id, (p.fileName?.map Utf8.toStringLossy).getD p.toStringLossy, .empty⟩

def tryOwner (s : σ) (p : Path) : Except Crash (Option PathOwner) :=
  if p.isAbsolute then
    match Registry.deviceAt? s p with
    | some d => do
      let parts ← DeviceId.tryCrack d.id.text
      if parts.1.isRemovable then
        return some ⟨d.id, d.name, (p.relativeTo? d.location).getD .empty⟩
      else return some (← tryFixedOwner p)
    | none => do return some (← tryFixedOwner p)
  else return none

theorem tryCheck_text (s : σ) (id : DeviceId) : tryCheck s id.text = pure (checkId s id) := by
  rw [tryCheck, check, DeviceId.trusted_text]
  rfl

theorem tryPath_text (s : σ) (id : DeviceId) : tryPath s id.text = pure (pathOfId? s id) := by
  rw [tryPath, pathOf?_eq]
  rfl

/-- An absolute path is not empty, so it makes an id. -/
theorem tryFixedOwner_eq {p : Path} (h : p.isAbsolute = true) :
    tryFixedOwner p = pure (fixedOwner p) := by
  have hbytes : p.bytes ≠ [] := by
    intro hnil
    simp [Path.isAbsolute, hnil] at h
  have htext : p.toStringLossy ≠ "" := Utf8.toStringLossy_ne_empty hbytes
  rw [tryFixedOwner, DeviceId.tryMake_of_ne htext, pure_bind]
  rfl

theorem tryOwner_eq (s : σ) (p : Path) : tryOwner s p = pure (ownerOf? s p) := by
  unfold tryOwner ownerOf?
  cases hp : p.isAbsolute with
  | false => rfl
  | true =>
    simp only [if_true, tryFixedOwner_eq hp, pure_bind]
    cases Registry.deviceAt? s p with
    | none => rfl
    | some d =>
      simp only [DeviceId.tryCrack_text, pure_bind, Option.filter_some, DeviceId.isRemovable]
      cases d.id.kind.isRemovable <;> rfl

end

end Lookup

def MountRegistry.tryOpen (c : Config) (t : FileTree) (now : Instant) :
    Except Crash (Except Error MountRegistry) :=
  match c.validate with
  | .error e => return .error e
  | .ok () => return (← (new c).tryRefresh t now).map (·.2)

theorem MountRegistry.tryOpen_eq (c : Config) (t : FileTree) (now : Instant) :
    tryOpen c t now = pure (open? c t now) := by
  unfold tryOpen open?
  cases c.validate with
  | error e => rfl
  | ok =>
    rw [tryRefresh_eq]
    cases (new c).refresh t now <;> rfl

namespace CommandLine.Invocation

open DeviceId (tryCrack tryMake)
open Lookup (tryCheck tryPath tryOwner)

def attachmentLine (id : String) (attached : Bool) : String :=
  id ++ "\t" ++ toString attached ++ "\n"

def tryAnswer (request : Request) (c : Config) (t : FileTree) (now : Instant) :
    Except Crash (Except Error Outcome) :=
  match request with
  | .makeId kind uniqueId =>
    if uniqueId = "" then return .error (.invalidArgument .emptyUniqueId)
    else return .ok (.printed ((← tryMake kind uniqueId).text ++ "\n"))
  | .crack text =>
    match DeviceId.parse text with
    | .error e => return .error e
    | .ok id => do
      let (kind, uniqueId) ← tryCrack id.text
      return .ok (.printed
        (Json.pretty [("type", .text kind.name), ("uniqueId", .text uniqueId)] ++ "\n"))
  | .classify text =>
    match DeviceId.parse text with
    | .error e => return .error e
    | .ok id => do
      let (kind, _) ← tryCrack id.text
      return .ok (.printed (Json.pretty [("deviceId", .text id.text),
        ("massStorage", .flag kind.isMassStorage), ("media", .flag kind.isMedia),
        ("removable", .flag kind.isRemovable)] ++ "\n"))
  | .attached texts =>
    match texts.mapM DeviceId.parse with
    | .error e => return .error e
    | .ok ids => do
      match ← MountRegistry.tryOpen c t now with
      | .error e => return .error e
      | .ok r =>
        let lines ← ids.mapM fun id =>
          return attachmentLine id.text ((← tryCheck r id.text).answer t.pathExists)
        return .ok (.printed (String.join lines))
  | .info path => do
    match ← MountRegistry.tryOpen c t now with
    | .error e => return .error e
    | .ok r =>
      match ← tryOwner r path with
      | none => return .error (.invalidArgument (.notAbsolute path))
      | some owner =>
        match owner.toRecord? with
        | none => return .error .unwritable
        | some record => return .ok (.printed (Json.pretty record ++ "\n"))
  | .find text =>
    match DeviceId.parse text with
    | .error e => return .error e
    | .ok id => do
      match ← MountRegistry.tryOpen c t now with
      | .error e => return .error e
      | .ok r =>
        match ← tryPath r id.text with
        | none => return .error (.deviceNotFound id.text)
        | some path => return .ok (.printed (path.toStringLossy ++ "\n"))
  | .list => do
    match ← MountRegistry.tryOpen c t now with
    | .error e => return .error e
    | .ok r =>
      match r.devices.mapM (·.toRecord?) with
      | none => return .error .unwritable
      | some records => return .ok (.printed (Json.prettyList records ++ "\n"))
  -- To start watching takes no id. The readings that follow are those of `tryRefresh`.
  | .watch => return answer .watch c t now

def tryOutcome (i : Invocation) (t : FileTree) (now : Instant) : Except Crash Outcome :=
  match i.configuration t with
  | .error e => return .failed e
  | .ok c => do
    match ← tryAnswer i.request c t now with
    | .ok o => return o
    | .error e => return .failed e

theorem tryAnswer_eq (request : Request) (c : Config) (t : FileTree) (now : Instant) :
    tryAnswer request c t now = pure (answer request c t now) := by
  cases request with
  | makeId kind uniqueId =>
    by_cases hempty : uniqueId = ""
    · simp only [tryAnswer, answer, if_pos hempty]
    · simp only [tryAnswer, answer, if_neg hempty, DeviceId.tryMake_of_ne hempty, pure_bind]
      rfl
  | crack text =>
    simp only [tryAnswer, answer]
    cases DeviceId.parse text with
    | error e => rfl
    | ok id =>
      simp only [DeviceId.tryCrack_text, pure_bind]
      rfl
  | classify text =>
    simp only [tryAnswer, answer]
    cases DeviceId.parse text with
    | error e => rfl
    | ok id =>
      simp only [DeviceId.tryCrack_text, pure_bind]
      rfl
  | attached texts =>
    simp only [tryAnswer, answer]
    cases texts.mapM DeviceId.parse with
    | error e => rfl
    | ok ids =>
      simp only [MountRegistry.tryOpen_eq, pure_bind, Lookup.tryCheck_text, List.mapM_pure]
      cases MountRegistry.open? c t now <;> rfl
  | info path =>
    simp only [tryAnswer, answer, MountRegistry.tryOpen_eq, Lookup.tryOwner_eq, pure_bind]
    cases MountRegistry.open? c t now with
    | error e => rfl
    | ok r =>
      simp only [ok_bind]
      cases Lookup.ownerOf? r path with
      | none => rfl
      | some owner =>
        dsimp only
        cases owner.toRecord? <;> rfl
  | find text =>
    simp only [tryAnswer, answer]
    cases DeviceId.parse text with
    | error e => rfl
    | ok id =>
      simp only [MountRegistry.tryOpen_eq, pure_bind, Lookup.tryPath_text]
      cases MountRegistry.open? c t now with
      | error e => rfl
      | ok r =>
        simp only [ok_bind]
        cases Lookup.pathOfId? r id <;> rfl
  | list =>
    simp only [tryAnswer, answer, MountRegistry.tryOpen_eq, pure_bind]
    cases MountRegistry.open? c t now with
    | error e => rfl
    | ok r =>
      simp only [ok_bind]
      cases r.devices.mapM (·.toRecord?) <;> rfl
  | watch => rfl

theorem tryOutcome_eq (i : Invocation) (t : FileTree) (now : Instant) :
    i.tryOutcome t now = pure (i.outcome t now) := by
  unfold tryOutcome outcome
  cases i.configuration t with
  | error e => rfl
  | ok c =>
    simp only [tryAnswer_eq, pure_bind, ok_bind]
    cases answer i.request c t now <;> rfl

end CommandLine.Invocation

namespace CommandLine

def tryOutcome (env : Environment) (args : List String) (t : FileTree) (now : Instant) :
    Except Crash Outcome :=
  match Invocation.read env args with
  | .ok i => i.tryOutcome t now
  | .error .misuse => return .misused
  | .error (.help topic) => return .printed (helpText env topic)
  | .error .version => return .printed versionText

theorem tryOutcome_eq (env : Environment) (args : List String) (t : FileTree) (now : Instant) :
    tryOutcome env args t now = .ok (outcome env args t now) := by
  unfold tryOutcome outcome
  cases Invocation.read env args with
  | ok i => exact i.tryOutcome_eq t now
  | error stop => cases stop <;> rfl

end CommandLine

end Hotplug
