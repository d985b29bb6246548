import Hotplug.Proofs.Json.Layout
/-!
# What readers give

A property of the values that a reader gives, whatever the text is. Reading is lenient in the order
of members, in unknown members and in arrays that stand for records; a property that every member
keeps holds of the record in all of these forms (`Yields.record`).
-/

namespace Hotplug.Json

def Yields {α : Type} (value : Reader α) (P : α → Prop) : Prop :=
  ∀ s a rest, value s = .ok (a, rest) → P a

section

variable {α β σ : Type} {P : α → Prop} {Q : β → Prop} {value : Reader α}

theorem yields_true (value : Reader α) : Yields value fun _ => True :=
  fun _ _ _ _ => trivial

theorem yields_pure {a : α} (h : P a) : Yields (pure a) P := by
  rintro s b rest hb
  obtain ⟨rfl, -⟩ := Prod.mk.inj (Except.ok.inj hb)
  exact h

theorem yields_fail (f : Fault) : Yields (fail f) P :=
  fun _ _ _ h => nomatch h

theorem Yields.bind {f : α → Reader β} (h : Yields value P) (hf : ∀ a, P a → Yields (f a) Q) :
    Yields (value >>= f) Q := by
  intro s b rest hb
  cases hvalue : value s with
  | error e =>
    change Except.bind (value s) _ = _ at hb
    rw [hvalue] at hb
    contradiction
  | ok p =>
    change Except.bind (value s) _ = _ at hb
    rw [hvalue] at hb
    exact hf p.1 (h s p.1 p.2 hvalue) p.2 b rest hb

/-- Only the value that is made in the end counts. -/
theorem Yields.of_bind {f : α → Reader β} (hf : ∀ a, Yields (f a) Q) : Yields (value >>= f) Q :=
  (yields_true value).bind fun a _ => hf a

theorem Yields.map {f : α → β} (h : Yields value P) (hf : ∀ a, P a → Q (f a)) :
    Yields (do return f (← value)) Q :=
  h.bind fun a ha => yields_pure (hf a ha)

/-! ## Values -/

theorem yields_wrongKind : Yields (wrongKind : Reader α) P := by
  refine .of_bind fun c? => ?_
  split
  · exact .of_bind fun _ => .of_bind fun _ => yields_fail _
  · exact yields_fail _
  · exact yields_fail _
  · split
    · exact .of_bind fun _ => yields_fail _
    · exact yields_fail _
  · exact yields_fail _

theorem yields_natural : Yields natural (· ≤ maxWord) := by
  refine .of_bind fun c? => ?_
  split
  · exact yields_fail _
  · split
    · have hread : Yields (Number.read : Reader Number) fun m => ∀ n, m = .natural n → n ≤ maxWord := by
        rintro s m rest hm n rfl
        exact Number.le_of_read hm
      refine hread.bind fun m hm => ?_
      split
      next n => exact yields_pure (hm n rfl)
      next => exact yields_fail _
    · exact yields_wrongKind

/-! ## Records -/

theorem Yields.once {given : Option α} (h : Yields value P) :
    Yields (once given value) fun a? => ∀ a ∈ a?, P a := by
  unfold Json.once
  split
  · exact .of_bind fun _ => .of_bind fun _ => h.map fun a ha b hb => by rwa [← Option.some.inj hb]
  · exact .of_bind fun _ => h.map fun a ha b hb => by rwa [← Option.some.inj hb]

theorem Yields.element {first : Bool} (h : Yields value P) : Yields (element first value) P := by
  refine .of_bind fun b => ?_
  split
  · exact h
  · exact yields_fail _

theorem Yields.element? {first : Bool} (h : Yields value P) :
    Yields (element? first value) fun a? => ∀ a ∈ a?, P a := by
  refine .of_bind fun b => ?_
  split
  · exact h.map fun a ha b hb => by rwa [← Option.some.inj hb]
  · exact yields_pure nofun

section Members

variable {I : σ → Prop} {member : σ → String → Reader σ}
  (hmember : ∀ acc key, I acc → Yields (member acc key) I)

include hmember

theorem yields_membersFromLead {fuel : Nat}
    (hmembers : ∀ acc, I acc → Yields (members member fuel false acc) I) {acc : σ}
    (hacc : I acc) : Yields (membersFromLead member fuel acc) I := by
  refine .of_bind fun c? => ?_
  split
  · exact yields_fail _
  · refine .of_bind fun _ => .of_bind fun key => ?_
    exact (hmember acc _ hacc).bind hmembers
  · exact yields_fail _

theorem yields_members (fuel : Nat) (first : Bool) {acc : σ} (hacc : I acc) :
    Yields (members member fuel first acc) I := by
  induction fuel generalizing first acc with
  | zero => exact yields_fail _
  | succ fuel ih =>
    have hlead : Yields (membersFromLead member fuel acc) I :=
      yields_membersFromLead hmember (fun _ => ih false) hacc
    refine .of_bind fun c? => ?_
    split
    · exact yields_fail _
    · exact .of_bind fun _ => yields_pure hacc
    · dsimp only
      split
      · split
        · exact .of_bind fun _ => hlead
        · exact .of_bind fun _ => hlead
      · exact hlead

end Members

theorem Yields.record {I : σ → Prop} {start : σ} {member : σ → String → Reader σ}
    {finish : σ → Option α} {elements : Reader α} (hstart : I start)
    (hmember : ∀ acc key, I acc → Yields (member acc key) I)
    (hfinish : ∀ acc a, I acc → finish acc = some a → P a) (helements : Yields elements P) :
    Yields (record start member finish elements) P := by
  refine .of_bind fun c? => ?_
  split
  · exact yields_fail _
  · exact .of_bind fun _ => helements.bind fun a ha => .of_bind fun _ => yields_pure ha
  · refine .of_bind fun _ => .of_bind fun s => ?_
    refine (yields_members hmember _ true hstart).bind fun acc hacc => ?_
    split
    next a ha => exact yields_pure (hfinish acc a hacc ha)
    next => exact yields_fail _
  · exact yields_wrongKind

end

end Hotplug.Json
