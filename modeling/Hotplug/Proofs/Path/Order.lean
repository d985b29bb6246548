import Hotplug.Path.Basic
/-!
# The order of places

Components are linearly ordered, so paths are ordered by their components, and two paths compare
as equal exactly if they spell one place. Of the places that contain a path there is only one at
each depth (`same_of_startsWith`).
-/

namespace Hotplug

open Std (OrientedOrd TransOrd LawfulEqOrd OrientedCmp TransCmp LawfulEqCmp)

namespace Component

theorem compare_swap (a b : Component) : compare a b = (compare b a).swap := by
  cases a <;> cases b <;> simp only [compare]
  case name.name => exact OrientedOrd.eq_swap
  all_goals rfl

instance : OrientedOrd Component where
  eq_swap := compare_swap _ _

instance : TransOrd Component where
  isLE_trans {a b c} hab hbc := by
    change (compare a b).isLE at hab
    change (compare b c).isLE at hbc
    change (compare a c).isLE
    cases a <;> cases b <;> cases c <;> simp only [compare] at *
    case name.name.name => exact TransOrd.isLE_trans hab hbc
    all_goals first | rfl | contradiction

instance : LawfulEqOrd Component where
  compare_self {a} := by
    change compare a a = .eq
    cases a <;> simp only [compare]
    case name => exact Std.ReflOrd.compare_self
    all_goals rfl
  eq_of_compare {a b} h := by
    change compare a b = .eq at h
    cases a <;> cases b <;> simp only [compare] at h
    case name.name => rw [LawfulEqOrd.eq_of_compare h]
    all_goals first | rfl | contradiction

end Component

namespace Path

@[simp] theorem Same.refl (p : Path) : p.Same p := rfl

theorem Same.symm {p q : Path} (h : p.Same q) : q.Same p :=
  Eq.symm h

theorem Same.trans {p q r : Path} (hpq : p.Same q) (hqr : q.Same r) : p.Same r :=
  Eq.trans hpq hqr

theorem same_comm {p q : Path} : p.Same q ↔ q.Same p :=
  ⟨Same.symm, Same.symm⟩

theorem Same.congr_right {p q : Path} (h : p.Same q) (r : Path) : r.Same p ↔ r.Same q :=
  ⟨fun hr => hr.trans h, fun hr => hr.trans h.symm⟩

theorem Same.congr_left {p q : Path} (h : p.Same q) (r : Path) : p.Same r ↔ q.Same r :=
  ⟨fun hr => h.symm.trans hr, fun hr => h.trans hr⟩

instance : TransCmp compare where
  eq_swap := OrientedOrd.eq_swap (α := List Component)
  isLE_trans := TransOrd.isLE_trans (α := List Component)

theorem compare_eq_iff {p q : Path} : p.compare q = .eq ↔ p.Same q :=
  Std.LawfulEqOrd.compare_eq_iff_eq (α := List Component)

theorem not_same_of_lt {p q : Path} (h : p.compare q = .lt) : ¬ p.Same q := by
  intro hs
  rw [compare_eq_iff.2 hs] at h
  contradiction

theorem Same.depth_eq {p q : Path} (h : p.Same q) : p.depth = q.depth :=
  congrArg List.length h

theorem startsWith_iff {p base : Path} :
    p.startsWith base = true ↔ base.components <+: p.components :=
  List.isPrefixOf_iff_prefix

theorem Same.startsWith_eq {a b : Path} (h : a.Same b) (p : Path) :
    p.startsWith a = p.startsWith b := by
  unfold Same at h
  simp only [startsWith, h]

theorem Same.startsWith_congr {p q : Path} (h : p.Same q) (base : Path) :
    p.startsWith base = q.startsWith base := by
  unfold Same at h
  simp only [startsWith, h]

theorem same_of_startsWith {p a b : Path} (ha : p.startsWith a = true)
    (hb : p.startsWith b = true) (hdepth : a.depth = b.depth) : a.Same b := by
  have hab : a.components <+: b.components :=
    List.prefix_of_prefix_length_le (startsWith_iff.1 ha) (startsWith_iff.1 hb)
      (Nat.le_of_eq hdepth)
  exact hab.eq_of_length hdepth

end Path

end Hotplug
