import Hotplug.Proofs.CommandLine.Configuration
import Hotplug.Proofs.CommandLine.Unbroken
import Hotplug.Proofs.Registry.Attachment
/-!
# Ids on the command line

Ids come to the program as texts from outside. The first text that is no id decides, before the
mount table is looked at. If all are ids, `attached` answers for each of them in their order, and
for a removable device `find` has a path to print exactly if `attached` says that it is attached
(`ids_are_answered`).
-/

namespace Hotplug

namespace DeviceId

/-- A text that starts with the lead of no kind of device. -/
def Malformed (s : String) : Prop :=
  ∀ k : DeviceKind, ¬k.Leads s

instance (s : String) : Decidable (Malformed s) :=
  decidable_of_iff (split? s = none) split?_eq_none_iff

theorem parse_of_malformed {s : String} (h : Malformed s) :
    parse s = .error (.malformedDeviceId s) :=
  parse_of_split?_eq_none (split?_eq_none_iff.2 h)

theorem exists_parse {s : String} (h : ¬ Malformed s) : ∃ id, parse s = .ok id ∧ id.text = s := by
  rw [Malformed, ← split?_eq_none_iff, ← ne_eq, Option.ne_none_iff_isSome] at h
  exact ⟨⟨s, h⟩, dif_pos h, rfl⟩

theorem mapM_parse_of_find? {texts : List String} {s : String}
    (h : texts.find? (Malformed ·) = some s) :
    texts.mapM parse = .error (.malformedDeviceId s) := by
  induction texts with
  | nil => contradiction
  | cons x texts ih =>
    rw [List.mapM_cons]
    by_cases hx : Malformed x
    · rw [List.find?_cons_of_pos (by simpa using hx)] at h
      obtain rfl := Option.some.inj h
      rw [parse_of_malformed hx]
      rfl
    · rw [List.find?_cons_of_neg (by simpa using hx)] at h
      obtain ⟨id, hid, -⟩ := exists_parse hx
      rw [hid, ok_bind, ih h]
      rfl

theorem exists_mapM_parse {texts : List String} (h : ∀ s ∈ texts, ¬ Malformed s) :
    ∃ ids, texts.mapM parse = .ok ids ∧ ids.map (·.text) = texts := by
  induction texts with
  | nil => exact ⟨[], rfl, rfl⟩
  | cons x texts ih =>
    obtain ⟨hx, htexts⟩ := List.forall_mem_cons.1 h
    obtain ⟨id, hid, htext⟩ := exists_parse hx
    obtain ⟨ids, hids, hmap⟩ := ih htexts
    refine ⟨id :: ids, ?_, by rw [List.map_cons, htext, hmap]⟩
    rw [List.mapM_cons, hid, ok_bind, hids]
    rfl

theorem leads_text (id : DeviceId) : id.kind.Leads id.text := by
  have hsplit : split? id.text = some (id.kind, id.uniqueId) := (Option.some_get id.wellFormed).symm
  exact leads_iff.2 ⟨id.uniqueId, split?_eq_some_iff.1 hsplit⟩

end DeviceId

/-! ## The time of a reading -/

theorem insertBy_map {α : Type} {order : α → α → Ordering} {f : α → α}
    (h : ∀ a b, order (f a) (f b) = order a b) (x : α) (xs : List α) :
    insertBy order (f x) (xs.map f) = (insertBy order x xs).map f := by
  induction xs with
  | nil => rfl
  | cons y xs ih =>
    rw [List.map_cons, insertBy, insertBy, h]
    cases order x y with
    | lt => rfl
    | eq => rfl
    | gt => rw [ih, List.map_cons]

namespace MountRegistry

def restamp (now : Instant) (d : AttachedDevice) : AttachedDevice :=
  { d with attachedAt := now }

theorem byLocation_map_restamp (now : Instant) (ds : List AttachedDevice) :
    byLocation (ds.map (restamp now)) = (byLocation ds).map (restamp now) := by
  induction ds using List.reverseRecOn with
  | nil => rfl
  | append_singleton ds d ih =>
    have hstep (ds : List AttachedDevice) (d : AttachedDevice) : byLocation (ds ++ [d]) =
        insertBy AttachedDevice.compareLocation d (byLocation ds) := by
      rw [byLocation, List.foldl_append, byLocation]
      rfl
    rw [List.map_append, List.map_singleton, hstep, hstep, ih]
    exact insertBy_map (f := restamp now) (fun _ _ => rfl) d _

/-- The time of the first reading is that of the records, and nothing else depends on it. -/
theorem exists_open?_restamp {c : Config} {t : FileTree} {now : Instant} {r : MountRegistry}
    (h : open? c t now = .ok r) (now' : Instant) :
    ∃ r', open? c t now' = .ok r' ∧ r'.devices = r.devices.map (restamp now') := by
  obtain ⟨_, hvalid, h⟩ := bind_eq_ok_iff.1 h
  obtain ⟨⟨events, _⟩, hr, h⟩ := bind_eq_ok_iff.1 h
  obtain rfl := Except.ok.inj h
  obtain ⟨⟨text, htext⟩, -, rfl⟩ := refresh_eq_ok_iff.1 hr
  obtain ⟨events', r', hr'⟩ := exists_refresh_eq_ok htext now'
  have hopen : open? c t now' = .ok r' :=
    bind_eq_ok_iff.2 ⟨(), hvalid, bind_eq_ok_iff.2 ⟨_, hr', rfl⟩⟩
  obtain ⟨-, -, rfl⟩ := refresh_eq_ok_iff.1 hr'
  refine ⟨_, hopen, ?_⟩
  change survey c t now' [] = (survey c t now []).map (restamp now')
  rw [survey, survey, ← byLocation_map_restamp, List.map_map]
  rfl

theorem locationOf?_restamp {r r' : MountRegistry} {now : Instant}
    (h : r'.devices = r.devices.map (restamp now)) (text : String) :
    Registry.locationOf? r' text = Registry.locationOf? r text := by
  rw [first r', first r]
  change (r'.devices.find? _).map _ = (r.devices.find? _).map _
  rw [h, List.find?_map, Option.map_map]
  rfl

end MountRegistry

namespace CommandLine

open DeviceId (Malformed)

def Request.ids : Request → List String
  | .crack id | .classify id | .find id => [id]
  | .attached ids => ids
  | _ => []

/-- What the check of a single id says on a tree. -/
def attached? (r : MountRegistry) (t : FileTree) (id : String) : Option Bool :=
  (Lookup.check r id).toOption.map (·.answer t.pathExists)

theorem attached?_text (r : MountRegistry) (t : FileTree) (id : DeviceId) :
    attached? r t id.text = some ((Lookup.checkId r id).answer t.pathExists) := by
  rw [attached?, Lookup.check_text]
  rfl

namespace Invocation

section Answer

variable {c : Config} {t : FileTree} {now : Instant} {r : MountRegistry}

theorem answer_of_malformed {request : Request} {s : String}
    (h : request.ids.find? (Malformed ·) = some s) :
    answer request c t now = .error (.malformedDeviceId s) := by
  have hone {text : String} (h : [text].find? (Malformed ·) = some s) :
      DeviceId.parse text = .error (.malformedDeviceId s) := by
    have hmem := List.mem_singleton.1 (List.mem_of_find?_eq_some h)
    exact hmem ▸ DeviceId.parse_of_malformed (by simpa using List.find?_some h)
  cases request with
  | crack text =>
    simp only [answer, hone h]
    rfl
  | classify text =>
    simp only [answer, hone h]
    rfl
  | find text =>
    simp only [answer, hone h]
    rfl
  | attached texts =>
    have hids : texts.mapM DeviceId.parse = .error (.malformedDeviceId s) :=
      DeviceId.mapM_parse_of_find? h
    simp only [answer, hids]
    rfl
  | _ => contradiction

theorem exists_answer_attached {texts : List String} (h : ∀ s ∈ texts, ¬ Malformed s)
    (hr : MountRegistry.open? c t now = .ok r) :
    ∃ truths, texts.map (attached? r t) = truths.map some ∧
      answer (.attached texts) c t now =
        .ok (.printed (String.join (List.zipWith attachmentLine texts truths))) := by
  obtain ⟨ids, hids, rfl⟩ := DeviceId.exists_mapM_parse h
  refine ⟨ids.map fun id => (Lookup.checkId r id).answer t.pathExists, ?_, ?_⟩
  · rw [List.map_map, List.map_map]
    exact List.map_congr_left fun id _ => attached?_text r t id
  · rw [List.zipWith_map, List.zipWith_self]
    simp only [answer, hids, hr]
    rfl

theorem exists_answer_find_iff {id : DeviceId} (hkind : id.kind ≠ .fixed)
    (hr : MountRegistry.open? c t now = .ok r) :
    (∃ text, answer (.find id.text) c t now = .ok (.printed text)) ↔
      (Registry.locationOf? r id.text).isSome = true := by
  rw [← Lookup.pathOfId?_of_ne_fixed r hkind]
  simp only [answer, DeviceId.parse_text, hr, ok_bind]
  cases Lookup.pathOfId? r id with
  | none =>
    refine iff_of_false ?_ Bool.false_ne_true
    rintro ⟨text, h⟩
    contradiction
  | some path => exact iff_of_true ⟨_, rfl⟩ rfl

end Answer

theorem outcome_eq {env : Environment} {args : List String} {i : Invocation} {c : Config}
    {t : FileTree} {now : Instant} (hi : read env args = .ok i) (hc : i.configuration t = .ok c) :
    CommandLine.outcome env args t now =
      match answer i.request c t now with
      | .ok o => o
      | .error e => .failed e := by
  rw [CommandLine.outcome, hi]
  change i.outcome t now = _
  rw [outcome, hc]
  rfl

end Invocation

/-- A run is never broken off over an id. Under a sound configuration the first text that is no id is
the error of a run, whatever the tree. If all are ids and the table can be read, `attached` prints a
line for each of them in their order, with the answer of its check, and `find` prints a path for a
removable device exactly if that answer is yes. -/
theorem ids_are_answered (env : Environment) (args : List String) (t : FileTree) (now : Instant) :
    tryOutcome env args t now = .ok (outcome env args t now) ∧
      ∀ i c, Invocation.read env args = .ok i → i.configuration t = .ok c →
        (∀ s, i.request.ids.find? (Malformed ·) = some s →
          outcome env args t now = .failed (.malformedDeviceId s)) ∧
        ∀ texts r, i.request = .attached texts → (∀ s ∈ texts, ¬ Malformed s) →
          MountRegistry.open? c t now = .ok r → ∃ truths,
            texts.map (attached? r t) = truths.map some ∧
            outcome env args t now =
              .printed (String.join (List.zipWith Invocation.attachmentLine texts truths)) ∧
            ∀ s ∈ texts, ¬ DeviceKind.Leads .fixed s →
              ∀ env' args' now' j, Invocation.read env' args' = .ok j → j.request = .find s →
                j.configuration t = .ok c →
                ((∃ text, outcome env' args' t now' = .printed text) ↔
                  attached? r t s = some true) := by
  refine ⟨tryOutcome_eq env args t now, fun i c hi hc => ⟨fun s hs => ?_,
    fun texts r hrequest htexts hr => ?_⟩⟩
  · rw [Invocation.outcome_eq hi hc, Invocation.answer_of_malformed hs]
  · obtain ⟨truths, htruths, hanswer⟩ := Invocation.exists_answer_attached htexts hr
    refine ⟨truths, htruths, ?_, fun s hs hfixed env' args' now' j hj hfind hcj => ?_⟩
    · rw [Invocation.outcome_eq hi hc, hrequest, hanswer]
    · obtain ⟨id, -, rfl⟩ := DeviceId.exists_parse (htexts s hs)
      have hkind : id.kind ≠ .fixed := fun hkind => hfixed (hkind ▸ DeviceId.leads_text id)
      -- The two runs may read the table at different times.
      obtain ⟨r', hr', hdevices⟩ := MountRegistry.exists_open?_restamp hr now'
      rw [attached?_text, Lookup.checkId_of_ne_fixed r hkind, Check.answer, Option.some.injEq,
        ← MountRegistry.locationOf?_restamp hdevices,
        ← Invocation.exists_answer_find_iff hkind hr', Invocation.outcome_eq hj hcj, hfind]
      cases Invocation.answer (.find id.text) c t now' with
      | ok o => simp
      | error e => simp

/-- Three ids, of a disk that is mounted, a directory and an unknown phone. The search for the disk
comes later. With other texts among the arguments there is only an error, of the first one. -/
theorem ids_are_answered_mixed :
    let t := MountRegistry.plainTree "/dev/sdb /u vfat rw 0 0\n" [("sdb", "1\n")]
    let texts := ["nodcim:DEV:sdb", "path:/sys", "mtp:x"]
    let run (command : List String) (now : Instant) :=
      outcome [] ("--mounts-path=/mounts" :: command) t now
    run ("attached" :: texts) ⟨10, 0⟩ =
        .printed "nodcim:DEV:sdb\ttrue\npath:/sys\ttrue\nmtp:x\tfalse\n" ∧
      (∃ text, run ["find", "nodcim:DEV:sdb"] ⟨20, 0⟩ = .printed text) ∧
      run ["attached", "mtp:x", "DCIM:a", "y"] ⟨10, 0⟩ = .failed (.malformedDeviceId "DCIM:a") := by
  intro t texts run
  let invocation (request : Request) : Invocation :=
    ⟨none, some (.ofString "/mounts"), none, request⟩
  let c : Config := { Config.default with mountsPath := .ofString "/mounts" }
  have hconfig (request : Request) : (invocation request).configuration t = .ok c := rfl
  have hread : Invocation.read [] ("--mounts-path=/mounts" :: "attached" :: texts) =
      .ok (invocation (.attached texts)) := by decide +kernel
  have hfind : Invocation.read [] ["--mounts-path=/mounts", "find", "nodcim:DEV:sdb"] =
      .ok (invocation (.find "nodcim:DEV:sdb")) := by decide +kernel
  have hbad : Invocation.read [] ["--mounts-path=/mounts", "attached", "mtp:x", "DCIM:a", "y"] =
      .ok (invocation (.attached ["mtp:x", "DCIM:a", "y"])) := by decide +kernel
  have htruths : (MountRegistry.open? c t ⟨10, 0⟩).toOption.map
      (fun r => texts.map (attached? r t)) = some [some true, some true, some false] := by
    decide +kernel
  have hfixed : ¬ DeviceKind.Leads .fixed "nodcim:DEV:sdb" := by decide
  cases hopen : MountRegistry.open? c t ⟨10, 0⟩ with
  | error e => simp [hopen, Except.toOption] at htruths
  | ok r =>
    rw [hopen] at htruths
    have htruths : texts.map (attached? r t) = [true, true, false].map some :=
      Option.some.inj htruths
    obtain ⟨-, hgood⟩ :=
      ids_are_answered [] ("--mounts-path=/mounts" :: "attached" :: texts) t ⟨10, 0⟩
    obtain ⟨-, hbad'⟩ := ids_are_answered []
      ["--mounts-path=/mounts", "attached", "mtp:x", "DCIM:a", "y"] t ⟨10, 0⟩
    obtain ⟨-, hattached⟩ := hgood _ c hread (hconfig _)
    obtain ⟨truths, heq, hprinted, hfound⟩ := hattached texts r rfl (by decide +kernel) hopen
    obtain rfl : [true, true, false] = truths :=
      List.map_injective_iff.2 (Option.some_injective _) (htruths.symm.trans heq)
    have hlines : String.join (List.zipWith Invocation.attachmentLine texts [true, true, false]) =
        "nodcim:DEV:sdb\ttrue\npath:/sys\ttrue\nmtp:x\tfalse\n" := by decide +kernel
    have htrue : attached? r t "nodcim:DEV:sdb" = some true := (List.cons.inj htruths).1
    have hiff := hfound "nodcim:DEV:sdb" List.mem_cons_self hfixed [] _ ⟨20, 0⟩ _ hfind rfl
      (hconfig _)
    obtain ⟨hfailed, -⟩ := hbad' _ c hbad (hconfig _)
    exact ⟨hprinted.trans (congrArg Outcome.printed hlines), hiff.2 htrue,
      hfailed "DCIM:a" (by decide +kernel)⟩

end CommandLine

end Hotplug
