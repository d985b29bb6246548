import Hotplug.Proofs.Device.Codec
import Hotplug.Proofs.Json.Yield
import Hotplug.Proofs.Text.Strict
/-!
# Devices in JSON, there and back

Ids, kinds and records of devices are read back from what is written for them. A record can be
written if its path is a text, which the path of a record that has been read always is.
-/

namespace Hotplug

open Json (Spells Yields ReadsBack Gathers Layout)

namespace Path

def IsText (p : Path) : Prop :=
  ∃ s, p = ofString s

theorem toString?_ofString (s : String) : (ofString s).toString? = some s :=
  Utf8.toString?_eq_some_iff.2 rfl

theorem isText_of_toString? {p : Path} {s : String} (h : p.toString? = some s) : p.IsText :=
  ⟨s, congrArg mk (Utf8.toString?_eq_some_iff.1 h).symm⟩

theorem spells_read {gap : List Char} (hgap : gap.all Json.isSpace = true) (s : String) :
    Spells read (gap ++ Json.quote s) (ofString s) :=
  (Spells.string hgap s).map ofString

theorem yields_read : Yields read IsText :=
  .of_bind fun s => Json.yields_pure ⟨s, rfl⟩

end Path

namespace DeviceId

theorem spells_read {gap : List Char} (hgap : gap.all Json.isSpace = true) (id : DeviceId) :
    Spells read (gap ++ Json.quote id.text) id := by
  refine .stringAs hgap ?_
  rw [ofOwned_eq_parse, parse_text]
  rfl

theorem readsBack (id : DeviceId) : ReadsBack read (fun id => some [id.toJson]) id := by
  refine .of_run rfl fun text htext => ?_
  rw [List.mem_singleton.1 htext]
  exact Json.run_of_spells (@spells_read [] rfl id)

end DeviceId

namespace DeviceKind

theorem ofName?_name (k : DeviceKind) : ofName? k.name = some k := by
  cases k <;> decide

theorem readsBack (k : DeviceKind) : ReadsBack read (fun k => some [k.toJson]) k := by
  refine .of_run rfl fun text htext => ?_
  rw [List.mem_singleton.1 htext]
  refine Json.run_of_spells fun rest hrest => ?_
  have hname : Spells (Json.stringAs ofName?) ([] ++ Json.quote k.name) k :=
    .stringAs rfl (ofName?_name k)
  rw [read, Json.quote_append, Json.bind_of_ok (Json.look_cons (by decide) _), ← Json.quote_append]
  exact hname rest hrest

end DeviceKind

namespace Instant

/-- The instant is read back from the text of it. -/
def Told (t : Instant) : Prop :=
  Timestamp.parse? (Timestamp.render t) = some t

instance (t : Instant) : Decidable t.Told :=
  inferInstanceAs (Decidable (_ = _))

theorem Told.spells_read {t : Instant} (h : t.Told) {gap : List Char}
    (hgap : gap.all Json.isSpace = true) :
    Spells read (gap ++ Json.quote (Timestamp.render t)) t :=
  .stringAs hgap h

end Instant

namespace AttachedDevice

theorem gathers (l : Layout) {d : AttachedDevice} {location : String}
    (hlocation : d.location = .ofString location) (htold : d.attachedAt.Told) :
    Gathers member l ⟨none, none, none, none⟩
      [("deviceId", .text d.id.text), ("name", .text d.name), ("location", .text location),
        ("attachedAt", .text (Timestamp.render d.attachedAt))]
      ⟨some d.id, some d.name, some d.location, some d.attachedAt⟩ := by
  rw [hlocation]
  refine .cons (DeviceId.spells_read l.gap_blank d.id).field ?_
  refine .cons (Spells.string l.gap_blank d.name).field ?_
  refine .cons (Path.spells_read l.gap_blank location).field ?_
  exact .cons (htold.spells_read l.gap_blank).field (.nil _)

theorem readsBack {d : AttachedDevice} (hlocation : d.location.IsText)
    (htold : d.attachedAt.Told) : ReadsBack read (Json.recordForms? toRecord?) d := by
  obtain ⟨location, hlocation⟩ := hlocation
  refine .record ?_ (List.cons_ne_nil _ _) fun l => .record (gathers l hlocation htold) rfl
  rw [toRecord?, hlocation, Path.toString?_ofString]
  rfl

theorem location_of_finish {d : Partial} {a : AttachedDevice} (h : finish d = some a) :
    d.location = some a.location := by
  simp only [finish, bind, Option.bind_eq_some_iff, pure, Option.some.injEq] at h
  obtain ⟨_, -, _, -, location, hlocation, _, -, rfl⟩ := h
  exact hlocation

def Partial.Sound (d : Partial) : Prop :=
  ∀ p ∈ d.location, p.IsText

theorem yields_member (d : Partial) (key : String) (h : d.Sound) :
    Yields (member d key) Partial.Sound := by
  unfold member
  split
  · exact .of_bind fun _ => Json.yields_pure h
  · exact .of_bind fun _ => Json.yields_pure h
  · exact Path.yields_read.once.map fun _ hp => hp
  · exact .of_bind fun _ => Json.yields_pure h
  · exact .of_bind fun _ => Json.yields_pure h

theorem yields_read : Yields read fun d => d.location.IsText := by
  refine .record (I := Partial.Sound) nofun yields_member (fun d a hd ha => ?_) ?_
  · exact hd a.location (location_of_finish ha)
  · refine .of_bind fun _ => .of_bind fun _ => ?_
    exact Path.yields_read.element.bind fun p hp => .of_bind fun _ => Json.yields_pure hp

end AttachedDevice

namespace PathOwner

theorem gathers (l : Layout) {o : PathOwner} {path : String}
    (hpath : o.relativePath = .ofString path) :
    Gathers member l ⟨none, none, none⟩
      [("deviceId", .text o.id.text), ("name", .text o.name), ("relativePath", .text path)]
      ⟨some o.id, some o.name, some o.relativePath⟩ := by
  rw [hpath]
  refine .cons (DeviceId.spells_read l.gap_blank o.id).field ?_
  refine .cons (Spells.string l.gap_blank o.name).field ?_
  exact .cons (Path.spells_read l.gap_blank path).field (.nil _)

theorem readsBack {o : PathOwner} (hpath : o.relativePath.IsText) :
    ReadsBack read (Json.recordForms? toRecord?) o := by
  obtain ⟨path, hpath⟩ := hpath
  refine .record ?_ (List.cons_ne_nil _ _) fun l => .record (gathers l hpath) rfl
  rw [toRecord?, hpath, Path.toString?_ofString]
  rfl

theorem relativePath_of_finish {o : Partial} {a : PathOwner} (h : finish o = some a) :
    o.relativePath = some a.relativePath := by
  simp only [finish, bind, Option.bind_eq_some_iff, pure, Option.some.injEq] at h
  obtain ⟨_, -, _, -, path, hpath, rfl⟩ := h
  exact hpath

def Partial.Sound (o : Partial) : Prop :=
  ∀ p ∈ o.relativePath, p.IsText

theorem yields_member (o : Partial) (key : String) (h : o.Sound) :
    Yields (member o key) Partial.Sound := by
  unfold member
  split
  · exact .of_bind fun _ => Json.yields_pure h
  · exact .of_bind fun _ => Json.yields_pure h
  · exact Path.yields_read.once.map fun _ hp => hp
  · exact .of_bind fun _ => Json.yields_pure h

theorem yields_read : Yields read fun o => o.relativePath.IsText := by
  refine .record (I := Partial.Sound) nofun yields_member (fun o a ho ha => ?_) ?_
  · exact ho a.relativePath (relativePath_of_finish ha)
  · refine .of_bind fun _ => .of_bind fun _ => ?_
    exact Path.yields_read.element.bind fun p hp => Json.yields_pure hp

end PathOwner

end Hotplug
