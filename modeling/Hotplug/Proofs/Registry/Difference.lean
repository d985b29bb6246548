import Hotplug.Proofs.Registry.Ascending
/-!
# The difference between two lists of devices

Place by place: a device departs if its place is empty afterwards or holds another id, and arrives
if its place was empty before or held another id (`recordAt?_unmatched`). The events of one place
stand apart from those of all others (`filter_difference`).
-/

namespace Hotplug

open AttachedDevice (Ascending)

namespace Event

/-- The order of events within a batch: departures before arrivals, and each of the two in the order
of the places. -/
def Precedes (e f : Event) : Prop :=
  (e.isAttach = false ∧ f.isAttach = true) ∨
    (e.isAttach = f.isAttach ∧ e.location.compare f.location = .lt)

end Event

namespace MountRegistry

/-- The devices that the other list does not hold at their places under their ids. -/
def unmatched (ds other : List AttachedDevice) : List AttachedDevice :=
  ds.filter (!isUnchanged other ·)

theorem difference_eq (previous current : List AttachedDevice) :
    difference previous current =
      (unmatched previous current).map .departure ++ (unmatched current previous).map .arrival :=
  rfl

theorem ascending_unmatched {ds : List AttachedDevice} (h : Ascending ds)
    (other : List AttachedDevice) : Ascending (unmatched ds other) :=
  List.Pairwise.filter _ h

theorem recordAt?_filter {ds : List AttachedDevice} (h : Ascending ds)
    (q : AttachedDevice → Bool) (p : Path) :
    recordAt? (ds.filter q) p = (recordAt? ds p).filter q := by
  have hfilter : Ascending (ds.filter q) := List.Pairwise.filter _ h
  have hlist : (recordAt? (ds.filter q) p).toList = (recordAt? ds p).toList.filter q := by
    rw [← filter_same_eq_toList hfilter, ← filter_same_eq_toList h, List.filter_filter,
      List.filter_filter]
    simp only [Bool.and_comm]
  cases hd : recordAt? ds p with
  | none => simpa [hd] using hlist
  | some d => cases hq : q d <;> simpa [hd, hq, Option.filter_some] using hlist

theorem recordAt?_unmatched {ds : List AttachedDevice} (h : Ascending ds)
    (other : List AttachedDevice) (p : Path) :
    recordAt? (unmatched ds other) p =
      (recordAt? ds p).filter fun d => !(recordAt? other p).any (·.id = d.id) := by
  rw [unmatched, recordAt?_filter h]
  cases hd : recordAt? ds p with
  | none => rfl
  | some d =>
    simp only [Option.filter_some, isUnchanged, recordAt?_congr (same_of_recordAt? hd)]

section Events

variable {previous current : List AttachedDevice}

theorem pairwise_difference (hprevious : Ascending previous) (hcurrent : Ascending current) :
    (difference previous current).Pairwise Event.Precedes := by
  rw [difference_eq, List.pairwise_append, List.pairwise_map, List.pairwise_map]
  refine ⟨?_, ?_, ?_⟩
  · exact (ascending_unmatched hprevious current).imp fun h => .inr ⟨rfl, h⟩
  · exact (ascending_unmatched hcurrent previous).imp fun h => .inr ⟨rfl, h⟩
  · intro e he f hf
    obtain ⟨d, -, rfl⟩ := List.mem_map.1 he
    obtain ⟨d', -, rfl⟩ := List.mem_map.1 hf
    exact .inl ⟨rfl, rfl⟩

theorem filter_difference (hprevious : Ascending previous) (hcurrent : Ascending current)
    (p : Path) :
    (difference previous current).filter (·.location.Same p) =
      (recordAt? (unmatched previous current) p).toList.map .departure ++
        (recordAt? (unmatched current previous) p).toList.map .arrival := by
  rw [difference_eq, List.filter_append, List.filter_map, List.filter_map,
    ← filter_same_eq_toList (ascending_unmatched hprevious current),
    ← filter_same_eq_toList (ascending_unmatched hcurrent previous)]
  rfl

theorem filter_difference_of_eq (hprevious : Ascending previous) (hcurrent : Ascending current)
    {p : Path} (h : recordAt? current p = recordAt? previous p) :
    (difference previous current).filter (·.location.Same p) = [] := by
  rw [filter_difference hprevious hcurrent, recordAt?_unmatched hprevious,
    recordAt?_unmatched hcurrent, h]
  cases recordAt? previous p <;> simp [Option.filter_some]

theorem filter_difference_of_ne (hprevious : Ascending previous) (hcurrent : Ascending current)
    {p : Path} (h : ∀ a b, recordAt? previous p = some a → recordAt? current p = some b →
      a.id ≠ b.id) :
    (difference previous current).filter (·.location.Same p) =
      (recordAt? previous p).toList.map .departure ++
        (recordAt? current p).toList.map .arrival := by
  rw [filter_difference hprevious hcurrent, recordAt?_unmatched hprevious,
    recordAt?_unmatched hcurrent]
  cases hold : recordAt? previous p with
  | none => cases recordAt? current p <;> simp [Option.filter_some]
  | some a =>
    cases hnew : recordAt? current p with
    | none => simp [Option.filter_some]
    | some b =>
      have hid := h a b hold hnew
      simp [Option.filter_some, hid, Ne.symm hid]

end Events

end MountRegistry

end Hotplug
