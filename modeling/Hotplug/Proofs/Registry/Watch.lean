import Hotplug.Proofs.Registry.Unbroken
import Hotplug.Registry.Watcher
import Mathlib.Data.List.Induction
import Mathlib.Data.List.TakeWhile
/-!
# Watchers at work

The only error of a reading is a table that cannot be read, and a watcher goes on after that
(`tick_eq`). So a watcher at work reads once for every turn that is due, and comes to the same as
these readings one after the other, until it is cancelled (`run_eq`). Neither an error nor anything
that the readings find ends it. A loop that tells the events of each reading and then forgets them
goes through the same states (`foldl_take_forget`).
-/

namespace Hotplug

namespace Watcher

open MountRegistry (Reading)

namespace Turn

def reading? : Turn → Option Reading
  | .cancelled => none
  | .due t now => some ⟨t, now⟩

/-- The readings that are due before the first cancellation. -/
def readings (turns : List Turn) : List Reading :=
  (turns.takeWhile (· ≠ .cancelled)).filterMap reading?

theorem readings_concat_of_mem {turns : List Turn} (h : .cancelled ∈ turns) (x : Turn) :
    readings (turns ++ [x]) = readings turns := by
  have htake : (turns ++ [x]).takeWhile (· ≠ .cancelled) = turns.takeWhile (· ≠ .cancelled) := by
    rw [List.takeWhile_append]
    split
    next hall =>
      have hnone := List.takeWhile_eq_self_iff.1 ((List.takeWhile_prefix _).eq_of_length hall)
      simpa using hnone _ h
    next => rfl
  rw [readings, htake, readings]

theorem readings_concat_of_not_mem {turns : List Turn} (h : .cancelled ∉ turns) (x : Turn) :
    readings (turns ++ [x]) = readings turns ++ (reading? x).toList := by
  have hall : turns.takeWhile (· ≠ .cancelled) = turns := by
    rw [List.takeWhile_eq_self_iff]
    intro y hy
    simp only [ne_eq, decide_not, Bool.not_eq_true', decide_eq_false_iff_not]
    rintro rfl
    exact h hy
  rw [readings, List.takeWhile_append_of_pos (List.takeWhile_eq_self_iff.1 hall),
    List.filterMap_append, readings, hall]
  cases x <;> rfl

end Turn

/-- A tick is a reading, and a reading that fails is as if it had not been. -/
theorem tick_eq (w : Watcher) (t : FileTree) (now : Instant) :
    w.tick t now = .ok ((w.registry.attempt ⟨t, now⟩).1,
      { w with registry := (w.registry.attempt ⟨t, now⟩).2 }) := by
  unfold tick MountRegistry.attempt
  cases hread : w.registry.refresh t now with
  | ok out => rfl
  | error e =>
    obtain ⟨cause, -, rfl⟩ := MountRegistry.refresh_eq_error_iff.1 hread
    rfl

theorem run_concat (w : Watcher) (turns : List Turn) (x : Turn) :
    run w (turns ++ [x]) = (run w turns).take x :=
  List.foldl_append

theorem take_eq_forget (s : Watch) (x : Turn) :
    s.take x =
      { s.forget.take x with batches := s.batches ++ (s.forget.take x).batches } := by
  obtain ⟨w, batches, ended⟩ := s
  cases ended with
  | some outcome => simp [Watch.take, Watch.forget]
  | none =>
    cases x with
    | cancelled => simp [Watch.take, Watch.forget]
    | due t now => simp [Watch.take, Watch.forget, tick_eq]

theorem foldl_take_forget (w : Watcher) (turns : List Turn) :
    turns.foldl (fun s x => (s.take x).forget) w.start = (run w turns).forget := by
  induction turns using List.reverseRecOn with
  | nil => rfl
  | append_singleton turns x ih =>
    rw [List.foldl_concat, ih, run_concat, take_eq_forget (run w turns) x]
    rfl

theorem run_eq (w : Watcher) (turns : List Turn) :
    run w turns =
      ⟨{ w with registry := (MountRegistry.run w.registry (Turn.readings turns)).2 },
        (MountRegistry.run w.registry (Turn.readings turns)).1,
        if .cancelled ∈ turns then some (.ok ()) else none⟩ := by
  induction turns using List.reverseRecOn with
  | nil => rfl
  | append_singleton turns x ih =>
    rw [run_concat, ih]
    by_cases hcancelled : .cancelled ∈ turns
    · rw [if_pos hcancelled, Turn.readings_concat_of_mem hcancelled,
        if_pos (List.mem_append_left _ hcancelled)]
      rfl
    · rw [if_neg hcancelled, Turn.readings_concat_of_not_mem hcancelled]
      cases x with
      | cancelled =>
        rw [if_pos (by simp), Turn.reading?, Option.toList, List.append_nil]
        rfl
      | due t now =>
        rw [if_neg (by simpa using hcancelled), Turn.reading?, Option.toList,
          MountRegistry.run_concat]
        unfold Watch.take
        simp only [tick_eq]

end Watcher

namespace MountRegistry

theorem run_append (r : MountRegistry) (xs ys : List Reading) :
    run r (xs ++ ys) = ((run r xs).1 ++ (run (run r xs).2 ys).1, (run (run r xs).2 ys).2) := by
  induction xs generalizing r with
  | nil => rfl
  | cons x xs ih => simp only [List.cons_append, run, ih]

/-- A reading of any tree gives its events or the failure to read the table, and is never broken
off. A watcher therefore ends only if it is cancelled, and then well. Up to there its registry and
the events are those of one reading for each tree. -/
theorem watcher_outlives_every_tree (config : Config) (xs : List Reading) :
    let r := after config xs
    (∀ t now, r.tryRefresh t now = .ok (r.refresh t now) ∧
      ((∃ out, r.refresh t now = .ok out) ∨ ∃ cause, r.refresh t now = .error (.file cause))) ∧
    ∀ (interval : Nat) (turns : List Watcher.Turn),
      let s := Watcher.run ⟨r, interval⟩ turns
      let readings := Watcher.Turn.readings turns
      s.ended = (if .cancelled ∈ turns then some (.ok ()) else none) ∧
        s.watcher.registry = after config (xs ++ readings) ∧
        batches config (xs ++ readings) = batches config xs ++ s.batches := by
  intro r
  refine ⟨fun t now => ⟨tryRefresh_eq r t now, ?_⟩, fun interval turns => ?_⟩
  · cases hread : r.refresh t now with
    | ok out => exact .inl ⟨out, rfl⟩
    | error e =>
      obtain ⟨cause, -, rfl⟩ := refresh_eq_error_iff.1 hread
      exact .inr ⟨cause, rfl⟩
  · intro s readings
    have hs : s = _ := Watcher.run_eq ⟨r, interval⟩ turns
    rw [hs, after, batches, run_append]
    exact ⟨rfl, rfl, rfl⟩

end MountRegistry

end Hotplug
