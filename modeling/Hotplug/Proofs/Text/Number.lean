import Hotplug.Text.Blank
import Hotplug.Text.Number
import Mathlib.Data.List.Basic
/-!
# What is no number

A character that is neither white space nor a digit nor a sign stays when a text is trimmed, and
with it the text is not read as a number.
-/

namespace Hotplug

theorem mem_dropWhile {α : Type} {p : α → Bool} {s : List α} {c : α} (h : c ∈ s) (hc : p c = false) :
    c ∈ s.dropWhile p := by
  rw [← List.takeWhile_append_dropWhile (p := p) (l := s), List.mem_append] at h
  refine h.resolve_left fun htake => ?_
  rw [List.all_eq_true.1 List.all_takeWhile c htake] at hc
  contradiction

theorem mem_trim {s : List Char} {c : Char} (h : c ∈ s) (hc : isBlank c = false) : c ∈ trim s := by
  rw [trim, List.mem_reverse]
  refine mem_dropWhile ?_ hc
  rw [List.mem_reverse]
  exact mem_dropWhile h hc

theorem mapM_eq_none_of_mem {α β : Type} {f : α → Option β} {s : List α} {x : α} (h : x ∈ s)
    (hx : f x = none) : s.mapM f = none := by
  induction s with
  | nil => contradiction
  | cons y s ih =>
    rw [List.mapM_cons]
    rcases List.mem_cons.1 h with rfl | h
    · rw [hx]
      rfl
    · rw [ih h]
      cases f y <;> rfl

theorem digits?_eq_none {s : List Char} {c : Char} (h : c ∈ s) (hc : digit? c = none) :
    digits? s = none := by
  rw [digits?, mapM_eq_none_of_mem h hc]
  split <;> rfl

theorem unsigned?_eq_none {s : List Char} {c : Char} (h : c ∈ s) (hc : digit? c = none)
    (hplus : c ≠ '+') : unsigned? s = none := by
  unfold unsigned?
  split
  next s =>
    refine digits?_eq_none ?_ hc
    exact (List.mem_cons.1 h).resolve_left hplus
  next => exact digits?_eq_none h hc

end Hotplug
