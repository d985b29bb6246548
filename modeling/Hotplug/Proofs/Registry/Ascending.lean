import Hotplug.Proofs.Path.Order
import Hotplug.Registry.Mounts
/-!
# Lists of devices in the order of their locations

`insertBy` keeps a list strictly ascending and changes what is found at one key only. So the list
that `byLocation` makes is strictly ascending, holds one device at most at each place, and that is
the last one given for the place.
-/

namespace Hotplug

open Std (OrientedCmp TransCmp)

section InsertBy

variable {α : Type} {order : α → α → Ordering}

theorem mem_insertBy {x y : α} {ys : List α} (h : y ∈ insertBy order x ys) :
    y = x ∨ y ∈ ys := by
  induction ys with
  | nil => simpa [insertBy] using h
  | cons z zs ih =>
    simp only [insertBy] at h
    split at h
    · simpa using h
    · rcases List.mem_cons.1 h with rfl | h
      · exact .inl rfl
      · exact .inr (List.mem_cons_of_mem _ h)
    · rcases List.mem_cons.1 h with rfl | h
      · exact .inr List.mem_cons_self
      · exact (ih h).imp_right (List.mem_cons_of_mem _)

theorem pairwise_insertBy [TransCmp order] (x : α) {ys : List α}
    (h : ys.Pairwise (order · · = .lt)) : (insertBy order x ys).Pairwise (order · · = .lt) := by
  induction ys with
  | nil => simp [insertBy]
  | cons y ys ih =>
    obtain ⟨hy, hys⟩ := List.pairwise_cons.1 h
    simp only [insertBy]
    split
    next hlt =>
      refine List.pairwise_cons.2 ⟨fun z hz => ?_, h⟩
      rcases List.mem_cons.1 hz with rfl | hz
      · exact hlt
      · exact TransCmp.lt_trans hlt (hy z hz)
    next heq =>
      refine List.pairwise_cons.2 ⟨fun z hz => ?_, hys⟩
      rw [TransCmp.congr_left heq]
      exact hy z hz
    next hgt =>
      refine List.pairwise_cons.2 ⟨fun z hz => ?_, ih hys⟩
      rcases mem_insertBy hz with rfl | hz
      · exact OrientedCmp.lt_of_gt hgt
      · exact hy z hz

/-- What is found by a test that holds of one key only. -/
theorem find?_insertBy [OrientedCmp order] {p : α → Bool}
    (hp : ∀ a b, p a = true → (p b = true ↔ order a b = .eq)) (x : α) (ys : List α) :
    (insertBy order x ys).find? p = if p x then some x else ys.find? p := by
  induction ys with
  | nil => cases hx : p x <;> simp [insertBy, hx]
  | cons y ys ih =>
    simp only [insertBy]
    split
    next => cases hx : p x <;> simp [hx]
    next heq =>
      have hxy : p x = p y := by
        rw [Bool.eq_iff_iff]
        exact ⟨fun hx => (hp x y hx).2 heq, fun hy => (hp y x hy).2 (OrientedCmp.eq_symm heq)⟩
      cases hy : p y <;> simp [hxy, hy]
    next hgt =>
      cases hy : p y
      · simp [hy, ih]
      · have hx : p x ≠ true := by
          intro hx
          rw [(hp x y hx).1 hy] at hgt
          contradiction
        simp [hy, hx]

end InsertBy

namespace AttachedDevice

instance : TransCmp compareLocation where
  eq_swap {a b} :=
    (OrientedCmp.eq_swap : a.location.compare b.location = (b.location.compare a.location).swap)
  isLE_trans {a _ c} hab hbc :=
    (TransCmp.isLE_trans hab hbc : (a.location.compare c.location).isLE = true)

/-- Strictly ascending by location. -/
def Ascending (ds : List AttachedDevice) : Prop :=
  ds.Pairwise (compareLocation · · = .lt)

end AttachedDevice

namespace MountRegistry

open AttachedDevice (Ascending)

@[simp] theorem recordAt?_nil (p : Path) : recordAt? [] p = none := rfl

theorem recordAt?_cons (d : AttachedDevice) (ds : List AttachedDevice) (p : Path) :
    recordAt? (d :: ds) p = if d.location.Same p then some d else recordAt? ds p := by
  by_cases h : d.location.Same p <;> simp [recordAt?, h]

theorem recordAt?_congr {p q : Path} (h : p.Same q) (ds : List AttachedDevice) :
    recordAt? ds p = recordAt? ds q := by
  simp only [recordAt?, h.congr_right]

theorem same_of_recordAt? {ds : List AttachedDevice} {p : Path} {d : AttachedDevice}
    (h : recordAt? ds p = some d) : d.location.Same p := by
  simpa using List.find?_some h

theorem mem_of_recordAt? {ds : List AttachedDevice} {p : Path} {d : AttachedDevice}
    (h : recordAt? ds p = some d) : d ∈ ds :=
  List.mem_of_find?_eq_some h

theorem recordAt?_insertBy (d : AttachedDevice) (ds : List AttachedDevice) (p : Path) :
    recordAt? (insertBy AttachedDevice.compareLocation d ds) p =
      if d.location.Same p then some d else recordAt? ds p := by
  have hp : ∀ a b : AttachedDevice, decide (a.location.Same p) = true →
      (decide (b.location.Same p) = true ↔ a.compareLocation b = .eq) := by
    intro a b ha
    have ha : a.location.Same p := of_decide_eq_true ha
    rw [decide_eq_true_iff, AttachedDevice.compareLocation, Path.compare_eq_iff,
      ← ha.congr_right, Path.same_comm]
  simpa [recordAt?] using find?_insertBy hp d ds

private theorem recordAt?_foldl_insertBy (ds acc : List AttachedDevice) (p : Path) :
    recordAt? (ds.foldl (fun acc d => insertBy AttachedDevice.compareLocation d acc) acc) p =
      ((ds.filter (·.location.Same p)).getLast?).or (recordAt? acc p) := by
  induction ds generalizing acc with
  | nil => simp
  | cons d ds ih =>
    rw [List.foldl_cons, ih, recordAt?_insertBy]
    by_cases h : d.location.Same p
    · simp [h, List.getLast?_cons, Option.or_some]
    · simp [h]

theorem recordAt?_byLocation (ds : List AttachedDevice) (p : Path) :
    recordAt? (byLocation ds) p = (ds.filter (·.location.Same p)).getLast? := by
  simp [byLocation, recordAt?_foldl_insertBy]

theorem ascending_byLocation (ds : List AttachedDevice) : Ascending (byLocation ds) := by
  suffices h : ∀ acc, Ascending acc →
      Ascending (ds.foldl (fun acc d => insertBy AttachedDevice.compareLocation d acc) acc) from
    h [] List.Pairwise.nil
  induction ds with
  | nil => exact fun acc hacc => hacc
  | cons d ds ih => exact fun acc hacc => ih _ (pairwise_insertBy d hacc)

theorem recordAt?_tail_eq_none {d : AttachedDevice} {ds : List AttachedDevice}
    (h : Ascending (d :: ds)) {p : Path} (hp : d.location.Same p) : recordAt? ds p = none := by
  rw [recordAt?, List.find?_eq_none]
  intro e he hep
  have hlt := (List.pairwise_cons.1 h).1 e he
  exact Path.not_same_of_lt hlt (hp.trans (of_decide_eq_true hep).symm)

theorem filter_same_eq_toList {ds : List AttachedDevice} (h : Ascending ds) (p : Path) :
    ds.filter (·.location.Same p) = (recordAt? ds p).toList := by
  induction ds with
  | nil => rfl
  | cons d ds ih =>
    have hrest := ih (List.pairwise_cons.1 h).2
    rw [recordAt?_cons]
    by_cases hp : d.location.Same p
    · rw [recordAt?_tail_eq_none h hp] at hrest
      simp [hp, hrest]
    · simpa [hp] using hrest

theorem recordAt?_eq_some_iff {ds : List AttachedDevice} (h : Ascending ds) {p : Path}
    {d : AttachedDevice} : recordAt? ds p = some d ↔ d ∈ ds ∧ d.location.Same p := by
  rw [← Option.mem_toList, ← filter_same_eq_toList h]
  simp

end MountRegistry

end Hotplug
