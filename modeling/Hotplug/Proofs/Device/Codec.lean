import Hotplug.Device.Json
import Hotplug.Proofs.Json.Layout
/-!
# Ids of devices as texts

A text names a kind of device exactly if it starts with the lead of the kind, and what follows is the
unique id (`split?_eq_some_iff`). The first colon decides, so `nodcim:` is not taken for the `dcim:`
it ends with. Every way from a text to an id accepts the same texts and keeps them as they are.
-/

namespace Hotplug

def DeviceKind.Leads (k : DeviceKind) (s : String) : Prop :=
  k.lead.toList <+: s.toList

instance (k : DeviceKind) (s : String) : Decidable (k.Leads s) :=
  inferInstanceAs (Decidable (_ <+: _))

namespace DeviceId

theorem append_of_cut? {s tag rest : String} (h : cut? s = some (tag, rest)) : s = tag ++ rest := by
  unfold cut? at h
  dsimp only at h
  split at h
  next => contradiction
  next colon cs hcs =>
    obtain ⟨rfl, rfl⟩ := Prod.mk.inj (Option.some.inj h)
    rw [← String.toList_inj, String.toList_append, String.toList_ofList, String.toList_ofList,
      List.append_assoc, List.singleton_append, ← hcs, List.takeWhile_append_dropWhile]

theorem split?_eq_some_iff {s u : String} {k : DeviceKind} :
    split? s = some (k, u) ↔ s = makeText k u := by
  constructor
  · intro h
    obtain ⟨⟨tag, rest⟩, hcut, hkind⟩ := Option.bind_eq_some_iff.1 h
    obtain ⟨k', hk', heq⟩ := Option.map_eq_some_iff.1 hkind
    obtain ⟨rfl, rfl⟩ := Prod.mk.inj heq
    have hlead : k'.lead = tag := by simpa using List.find?_some hk'
    rw [append_of_cut? hcut, ← hlead]
    rfl
  · rintro rfl
    exact split?_makeText k u

theorem leads_iff {k : DeviceKind} {s : String} : k.Leads s ↔ ∃ u, s = makeText k u := by
  constructor
  · rintro ⟨u, hu⟩
    refine ⟨String.ofList u, ?_⟩
    rw [← String.toList_inj, makeText, String.toList_append, String.toList_ofList, hu]
  · rintro ⟨u, rfl⟩
    exact ⟨u.toList, (String.toList_append ..).symm⟩

theorem split?_eq_none_iff {s : String} : split? s = none ↔ ∀ k : DeviceKind, ¬k.Leads s := by
  constructor
  · rintro h k hk
    obtain ⟨u, rfl⟩ := leads_iff.1 hk
    rw [split?_makeText] at h
    contradiction
  · intro h
    cases hs : split? s with
    | none => rfl
    | some p => exact absurd (leads_iff.2 ⟨p.2, split?_eq_some_iff.1 hs⟩) (h p.1)

theorem ofOwned_eq_parse (s : String) : ofOwned s = parse s := by
  unfold ofOwned parse
  split
  next p hs => rw [dif_pos (by rw [hs, Option.isSome_some])]
  next hs => rw [dif_neg (by simp [hs])]

theorem parse_text (id : DeviceId) : parse id.text = .ok id :=
  dif_pos id.wellFormed

theorem crack_text (id : DeviceId) : crack id.text = .ok (id.kind, id.uniqueId) := by
  rw [crack, trusted_text]
  rfl

theorem text_of_parse {s : String} {id : DeviceId} (h : parse s = .ok id) : id.text = s := by
  unfold parse at h
  split at h
  · rw [← Except.ok.inj h]
  · contradiction

theorem parse_of_split?_eq_none {s : String} (h : split? s = none) :
    parse s = .error (.malformedDeviceId s) :=
  dif_neg (by simp [h])

theorem crack_of_split?_eq_none {s : String} (h : split? s = none) :
    crack s = .error (.malformedDeviceId s) := by
  rw [crack, trusted, dif_neg (by simp [h])]
  rfl

theorem makeChecked_of_ne {k : DeviceKind} {u : String} (h : u ≠ "") :
    makeChecked k u = .ok (make k u) :=
  if_neg h

theorem run_read_of_ok {s json : String} {id : DeviceId} (h : Json.run Json.string json = .ok s)
    (hid : parse s = .ok id) : Json.run read json = .ok id := by
  rw [read, Json.run_stringAs h, ofOwned_eq_parse, hid]
  rfl

theorem run_read_of_error {s json : String} {e : Error} (h : Json.run Json.string json = .ok s)
    (he : parse s = .error e) : Json.run read json = .error .mismatch := by
  rw [read, Json.run_stringAs h, ofOwned_eq_parse, he]
  rfl

/-- A text is an id exactly if it starts with the lead of a kind, which no other kind then does. The
id has this text, and its parts are those from which it is made. All ways from a text to an id agree,
JSON included, where every text has a form, and any other text is refused by all of them. -/
theorem codec_is_exact :
    (∀ k u, u ≠ "" → ∃ id, makeChecked k u = .ok id ∧ crack id.text = .ok (k, u)) ∧
      (∀ k u k' u', u ≠ "" → u' ≠ "" → makeChecked k u = makeChecked k' u' → k = k' ∧ u = u') ∧
      (∀ (k : DeviceKind) (s : String), k.Leads s → ∃ id,
        (parse s = .ok id ∧ ofText s = .ok id ∧ ofOwned s = .ok id ∧
          ∀ json, Json.run Json.string json = .ok s → Json.run read json = .ok id) ∧
        (∀ k' : DeviceKind, k'.Leads s → k' = k) ∧
        crack s = .ok (k, id.uniqueId) ∧ id.text = s ∧ k.lead ++ id.uniqueId = s ∧
        (id.uniqueId ≠ "" → makeChecked k id.uniqueId = .ok id)) ∧
      (∀ s : String, (∀ k : DeviceKind, ¬k.Leads s) →
        (parse s = .error (.malformedDeviceId s) ∧ ofText s = .error (.malformedDeviceId s) ∧
          ofOwned s = .error (.malformedDeviceId s) ∧
          ∀ json, Json.run Json.string json = .ok s → Json.run read json = .error .mismatch) ∧
        crack s = .error (.malformedDeviceId s)) ∧
      ∀ s : String, Json.run Json.string (String.ofList (Json.quote s)) = .ok s := by
  refine ⟨fun k u hu => ?_, fun k u k' u' hu hu' h => ?_, fun k s hs => ?_, fun s hs => ?_,
    fun s => Json.run_of_spells (Json.Spells.quoted s)⟩
  · refine ⟨make k u, makeChecked_of_ne hu, ?_⟩
    rw [crack_text, kind_make, uniqueId_make]
  · rw [makeChecked_of_ne hu, makeChecked_of_ne hu', Except.ok.injEq] at h
    have htexts : makeText k u = makeText k' u' := congrArg text h
    have hparts := split?_eq_some_iff.2 htexts
    rw [split?_makeText] at hparts
    exact Prod.mk.inj (Option.some.inj hparts)
  · obtain ⟨u, rfl⟩ := leads_iff.1 hs
    have hparse : parse (makeText k u) = .ok (make k u) := parse_text (make k u)
    have htext : ofText (makeText k u) = .ok (make k u) := by
      rw [ofText]
      exact hparse
    refine ⟨make k u, ⟨hparse, htext, (ofOwned_eq_parse _).trans hparse,
      fun json hjson => run_read_of_ok hjson hparse⟩, fun k' hk' => ?_, ?_, rfl, ?_, fun hu => ?_⟩
    · -- Both leads end at the first colon of the text.
      obtain ⟨u', hu'⟩ := leads_iff.1 hk'
      have hparts := split?_eq_some_iff.2 hu'
      rw [split?_makeText] at hparts
      exact (Prod.mk.inj (Option.some.inj hparts)).1.symm
    · have hcrack := crack_text (make k u)
      rwa [kind_make] at hcrack
    · rw [uniqueId_make]
      rfl
    · rw [uniqueId_make] at hu ⊢
      exact makeChecked_of_ne hu
  · have hsplit := split?_eq_none_iff.2 hs
    have hparse := parse_of_split?_eq_none hsplit
    exact ⟨⟨hparse, hparse, (ofOwned_eq_parse s).trans hparse,
      fun json hjson => run_read_of_error hjson hparse⟩, crack_of_split?_eq_none hsplit⟩

/-- Of two leads one may end in the other; the text still has one kind. -/
theorem codec_is_exact_nested :
    (DeviceKind.Leads .withoutDcim "nodcim:dcim:a" ∧
      ∃ id, parse "nodcim:dcim:a" = .ok id ∧ id.uniqueId = "dcim:a" ∧
        makeChecked .withoutDcim "dcim:a" = .ok id) ∧
      ((∀ k : DeviceKind, ¬k.Leads "DCIM:a") ∧
        parse "DCIM:a" = .error (.malformedDeviceId "DCIM:a")) := by
  obtain ⟨-, -, hok, herror, -⟩ := codec_is_exact
  have hleads : DeviceKind.Leads .withoutDcim "nodcim:dcim:a" := by decide
  have hnone : ∀ k : DeviceKind, ¬k.Leads "DCIM:a" := by
    intro k
    cases k <;> decide
  obtain ⟨id, ⟨hparse, -⟩, -, -, -, htext, hmake⟩ := hok _ _ hleads
  have hid : id.uniqueId = "dcim:a" :=
    (String.append_right_inj _).1 (htext.trans (by decide :
      "nodcim:dcim:a" = DeviceKind.lead .withoutDcim ++ "dcim:a"))
  exact ⟨⟨hleads, id, hparse, hid, hid ▸ hmake (by rw [hid]; decide)⟩,
    ⟨hnone, (herror _ hnone).1.1⟩⟩

end DeviceId

end Hotplug
