import Hotplug.Event.Json
import Hotplug.Proofs.Device.Json
/-!
# Events in JSON, there and back

What is written for an event is read as that event: the kind of change comes first, and the other
fields are gathered as they stand. The location of an event that has been read is always a text.
-/

namespace Hotplug.Event

open Json (Spells Yields ReadsBack Gathers Layout)

theorem Change.ofName?_name (c : Change) : Change.ofName? c.name = some c := by
  cases c <;> decide

theorem spells_value {gap : List Char} (hgap : gap.all Json.isSpace = true) (s : String) :
    Spells value (gap ++ Json.quote s) (.text s) := by
  intro rest hrest
  have hstring : Json.string (Json.quote s ++ rest) = .ok (s, rest) :=
    Spells.quoted s rest hrest
  rw [List.append_assoc, value, Json.quote_append,
    Json.bind_of_ok (Json.look_append hgap (by decide) _), ← Json.quote_append]
  simp only
  rw [Json.bind_of_ok hstring]
  rfl

theorem spells_member {gap : List Char} (hgap : gap.all Json.isSpace = true) (key : String)
    (hkey : key ≠ "event") (e : Partial) (s : String) :
    Spells (member e key) (':' :: (gap ++ Json.quote s))
      { e with fields := e.fields ++ [(key, .text s)] } := by
  intro rest hrest
  rw [member, if_neg hkey, List.cons_append, Json.bind_of_ok (Json.colon_cons _),
    Json.bind_of_ok (spells_value hgap s rest hrest)]
  rfl

theorem id?_text (id : DeviceId) : id? (.text id.text) = some id := by
  rw [id?, text?, Option.bind_some, DeviceId.ofOwned_eq_parse, DeviceId.parse_text]
  rfl

theorem spells_change {gap : List Char} (hgap : gap.all Json.isSpace = true) (c : Change) :
    Spells (member ⟨none, []⟩ "event") (':' :: (gap ++ Json.quote c.name)) ⟨some c, []⟩ := by
  rw [member, if_pos rfl]
  exact (Spells.stringAs hgap (Change.ofName?_name c)).field

theorem gathers_attached (l : Layout) (i : DeviceId) (n location : String) :
    Gathers member l ⟨none, []⟩
      [("event", .text Change.attached.name), ("device_id", .text i.text), ("name", .text n),
        ("location", .text location)]
      ⟨some .attached,
        [("device_id", .text i.text), ("name", .text n), ("location", .text location)]⟩ := by
  refine .cons (spells_change l.gap_blank .attached) ?_
  refine .cons (spells_member l.gap_blank "device_id" (by decide) _ i.text) ?_
  refine .cons (spells_member l.gap_blank "name" (by decide) _ n) ?_
  exact .cons (spells_member l.gap_blank "location" (by decide) _ location) (.nil _)

theorem gathers_detached (l : Layout) (i : DeviceId) (location : String) :
    Gathers member l ⟨none, []⟩
      [("event", .text Change.detached.name), ("device_id", .text i.text),
        ("location", .text location)]
      ⟨some .detached, [("device_id", .text i.text), ("location", .text location)]⟩ := by
  refine .cons (spells_change l.gap_blank .detached) ?_
  refine .cons (spells_member l.gap_blank "device_id" (by decide) _ i.text) ?_
  exact .cons (spells_member l.gap_blank "location" (by decide) _ location) (.nil _)

theorem spells_read {l : Layout} {r : Json.Record} {e : Event} {change : Change}
    {fields : List (String × Value)} (h : Gathers member l ⟨none, []⟩ r ⟨some change, fields⟩)
    (he : ofFields? change fields = some e) : Spells read (l.write r) e := by
  intro rest hrest
  have hfinish : (fun e : Partial => e.change.map (ofFields? · e.fields)) ⟨some change, fields⟩ =
      some (some e) := congrArg some he
  rw [read, Json.bind_of_ok (Spells.record h hfinish rest hrest)]
  rfl

theorem readsBack {e : Event} (h : e.location.IsText) :
    ReadsBack read (Json.recordForms? toRecord?) e := by
  obtain ⟨location, hlocation⟩ := h
  cases e with
  | attached i n p =>
    obtain rfl : p = .ofString location := hlocation
    refine .record ?_ (List.cons_ne_nil _ _) fun l => spells_read (gathers_attached l i n location) ?_
    · rw [toRecord?, Path.toString?_ofString]
      rfl
    · simp [ofFields?, field?, ofValues?, id?_text, text?]
  | detached i p =>
    obtain rfl : p = .ofString location := hlocation
    refine .record ?_ (List.cons_ne_nil _ _) fun l => spells_read (gathers_detached l i location) ?_
    · rw [toRecord?, Path.toString?_ofString]
      rfl
    · simp [ofFields?, field?, ofValues?, id?_text, text?]

theorem isText_of_ofValues? {c : Change} {vs : List Value} {e : Event}
    (h : ofValues? c vs = some e) : e.location.IsText := by
  unfold ofValues? at h
  split at h
  · simp only [bind, Option.bind_eq_some_iff, pure, Option.some.injEq] at h
    obtain ⟨_, -, _, -, location, -, rfl⟩ := h
    exact ⟨location, rfl⟩
  · simp only [bind, Option.bind_eq_some_iff, pure, Option.some.injEq] at h
    obtain ⟨_, -, location, -, rfl⟩ := h
    exact ⟨location, rfl⟩
  · contradiction

theorem isText_of_ofFields? {c : Change} {fields : List (String × Value)} {e : Event}
    (h : ofFields? c fields = some e) : e.location.IsText := by
  obtain ⟨i, -, h⟩ := Option.bind_eq_some_iff.1 h
  obtain ⟨l, -, h⟩ := Option.bind_eq_some_iff.1 h
  cases c with
  | attached =>
    obtain ⟨n, -, h⟩ := Option.bind_eq_some_iff.1 h
    exact isText_of_ofValues? h
  | detached => exact isText_of_ofValues? h

theorem yields_read : Yields read fun e => e.location.IsText := by
  refine Yields.bind (P := fun event? => ∀ e ∈ event?, e.location.IsText) ?_ fun event? hevent => ?_
  · -- The location becomes a path when the event is made, so nothing is kept until then.
    refine .record (I := fun _ => True) trivial (fun _ _ _ => Json.yields_true _)
      (fun acc event? _ ha e he => ?_) ?_
    · obtain ⟨c, -, hfields⟩ := Option.map_eq_some_iff.1 ha
      exact isText_of_ofFields? (hfields.trans he)
    · refine .of_bind fun change => .of_bind fun s => .of_bind fun vs => ?_
      exact Json.yields_pure fun e he => isText_of_ofValues? he
  · split
    next e => exact Json.yields_pure (hevent e rfl)
    next => exact Json.yields_fail _

end Hotplug.Event
