import Hotplug.Device.Id
import Hotplug.Time.Instant
/-!
# Device records

What is known of an attached device, and of the device that a path lies on.
-/

namespace Hotplug

structure AttachedDevice where
  id : DeviceId
  name : String
  /-- Where its files are; empty if it is not mounted. -/
  location : Path
  attachedAt : Instant
deriving DecidableEq, Repr

/-- The device that holds a path, and the path as seen from the device. -/
structure PathOwner where
  id : DeviceId
  name : String
  relativePath : Path
deriving DecidableEq, Repr

/-- An element with the greatest measure, the last one of several. -/
def lastMax? {α : Type} (measure : α → Nat) : List α → Option α
  | [] => none
  | x :: xs =>
    match lastMax? measure xs with
    | none => some x
    | some y => if measure x ≤ measure y then some y else some x

namespace AttachedDevice

/-- The path lies on the device. Nothing lies on a device that is not mounted. -/
def contains (d : AttachedDevice) (p : Path) : Bool :=
  d.location.bytes ≠ [] && p.startsWith d.location

def deepestContaining? (devices : List AttachedDevice) (p : Path) : Option AttachedDevice :=
  lastMax? (·.location.depth) (devices.filter (·.contains p))

end AttachedDevice

theorem lastMax?_eq_none {α : Type} {measure : α → Nat} {xs : List α} :
    lastMax? measure xs = none ↔ xs = [] := by
  cases xs with
  | nil => simp [lastMax?]
  | cons x xs =>
    simp only [lastMax?, reduceCtorEq, iff_false]
    split
    · simp
    · split <;> simp

theorem mem_of_lastMax? {α : Type} {measure : α → Nat} {xs : List α} {x : α}
    (h : lastMax? measure xs = some x) : x ∈ xs := by
  induction xs with
  | nil => simp [lastMax?] at h
  | cons y ys ih =>
    simp only [lastMax?] at h
    split at h
    · simp_all
    · split at h
      · simp_all
      · simp_all

theorem le_of_lastMax? {α : Type} {measure : α → Nat} {xs : List α} {x : α}
    (h : lastMax? measure xs = some x) : ∀ y ∈ xs, measure y ≤ measure x := by
  induction xs generalizing x with
  | nil => simp [lastMax?] at h
  | cons z zs ih =>
    simp only [lastMax?] at h
    split at h
    · next hz =>
      rw [lastMax?_eq_none] at hz
      simp_all
    · next w hw =>
      have := ih hw
      split at h <;> simp only [Option.some.injEq] at h <;> subst h <;>
        intro y hy <;> rcases List.mem_cons.1 hy with rfl | hy
      · assumption
      · exact this y hy
      · exact Nat.le_refl _
      · have := this y hy
        omega

end Hotplug
