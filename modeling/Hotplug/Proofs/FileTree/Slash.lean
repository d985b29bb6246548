import Hotplug.FileTree.Basic
import Hotplug.Proofs.Path.Relative
/-!
# Paths that end in a slash

A slash at the end of a path has a directory before it, links followed, so such a path leads to a
directory and never to a link (`readLink?_eq_none_of_slash`). A link in a directory therefore has a
name with something in it.
-/

namespace Hotplug

theorem Path.getLast?_segments_join_nil (p : Path) :
    (p.join ⟨[]⟩).segments.getLast? = some [] := by
  have hslash (bs : List UInt8) : (segments ⟨bs ++ [slash]⟩).getLast? = some [] := by
    rw [segments_append_slash, List.getLast?_append]
    rfl
  rw [join, if_neg (by simp [isAbsolute])]
  split
  next h =>
    rw [List.append_nil]
    rcases h with hnil | hlast
    · rw [segments, hnil]
      rfl
    · obtain ⟨bs, hbs⟩ := List.getLast?_eq_some_iff.1 hlast
      rw [hbs]
      exact hslash bs
  next => exact hslash p.bytes

namespace FileTree

variable {t : FileTree} {r : Resolution}

/-- A step is taken from a directory. It goes on from some place, which is the same one if the
segment is empty, or it follows a link, or it ends at a link. -/
theorem walkWith_cons_cases {follow : Place → Path → List Name → Except FileError Place}
    {s : Name} {rest : List Name} {here place : Place}
    (h : t.walkWith follow r here (s :: rest) = .ok place) :
    t.entry? here = some .dir ∧
      ((∃ next, t.walkWith follow r next rest = .ok place ∧ (s = [] → next = here)) ∨
        (∃ target, s ≠ [] ∧ follow here target rest = .ok place) ∨ s ≠ [] ∧ rest = []) := by
  rw [walkWith] at h
  split at h
  · contradiction
  next hdir =>
  refine ⟨Decidable.not_not.1 hdir, ?_⟩
  split at h
  · contradiction
  split at h
  next => exact .inl ⟨here, h, fun _ => rfl⟩
  next hstep =>
  have hs : s ≠ [] := fun hnil => hstep (.inl hnil)
  split at h
  next => exact .inl ⟨_, h, fun hnil => absurd hnil hs⟩
  split at h
  · contradiction
  split at h
  next => contradiction
  next target _ =>
    split at h
    next hkept => exact .inr (.inr ⟨hs, hkept.1⟩)
    next => exact .inr (.inl ⟨target, hs, h⟩)
  next => exact .inl ⟨_, h, fun hnil => absurd hnil hs⟩

theorem entry?_of_walkWith {follow : Place → Path → List Name → Except FileError Place}
    (hfollow : ∀ here target rest place, rest.getLast? = some [] →
      follow here target rest = .ok place → t.entry? place = some .dir)
    {ss : List Name} (hlast : ss.getLast? = some []) {here place : Place}
    (h : t.walkWith follow r here ss = .ok place) : t.entry? place = some .dir := by
  induction ss generalizing here with
  | nil => contradiction
  | cons s rest ih =>
    obtain ⟨hdir, hcases⟩ := walkWith_cons_cases h
    by_cases hrest : rest = []
    · -- The walk ends here, at the empty segment.
      obtain rfl : s = [] := by simpa [hrest] using hlast
      rcases hcases with ⟨next, hnext, hsame⟩ | ⟨target, hne, -⟩ | ⟨hne, -⟩
      · rw [hrest, walkWith, Except.ok.injEq, hsame rfl] at hnext
        rw [← hnext]
        exact hdir
      · contradiction
      · contradiction
    · have hlast : rest.getLast? = some [] := by
        rwa [List.getLast?_cons_of_ne_nil hrest] at hlast
      rcases hcases with ⟨next, hnext, -⟩ | ⟨target, -, htarget⟩ | ⟨-, hnil⟩
      · exact ih hlast hnext
      · exact hfollow _ _ _ _ hlast htarget
      · contradiction

theorem entry?_of_walk {budget : Nat} {ss : List Name} (hlast : ss.getLast? = some [])
    {here place : Place} (h : t.walk r budget here ss = .ok place) :
    t.entry? place = some .dir := by
  induction budget generalizing ss here place with
  | zero =>
    refine entry?_of_walkWith (fun _ _ _ _ _ hfollow => ?_) hlast h
    contradiction
  | succ budget ih =>
    refine entry?_of_walkWith (fun _ _ rest _ hrest hfollow => ih ?_ hfollow) hlast h
    rw [List.getLast?_append, hrest]
    rfl

theorem entry?_of_resolve {p : Path} (hlast : p.segments.getLast? = some []) {place : Place}
    (h : t.resolve r p = .ok place) : t.entry? place = some .dir := by
  rw [resolve] at h
  split at h
  next => contradiction
  split at h
  next => contradiction
  split at h
  next => contradiction
  next => exact entry?_of_walk hlast h

theorem readLink?_eq_none_of_slash {p : Path} (hlast : p.segments.getLast? = some []) :
    t.readLink? p = none := by
  rw [readLink?]
  cases hplace : t.resolve .keepLast p with
  | error e => rfl
  | ok place =>
    have hdir := entry?_of_resolve hlast hplace
    simp [Except.toOption, hdir]

theorem ne_nil_of_readLink? {dir target : Path} {name : Name}
    (h : t.readLink? (dir.join ⟨name⟩) = some target) : name ≠ [] := by
  rintro rfl
  rw [readLink?_eq_none_of_slash dir.getLast?_segments_join_nil] at h
  contradiction

end FileTree

end Hotplug
