import Hotplug.FileTree.Basic
/-!
# Writing a file

A file that is written keeps its place. Every path still leads where it led (`resolve_write`), every
directory lists the same names, and only the file itself reads differently.
-/

namespace Hotplug.FileTree

def write (t : FileTree) (place : Place) (contents : List UInt8) : FileTree :=
  { t with entries := t.entries.map fun e => if e.1 = place then (e.1, .file contents) else e }

theorem children_write (t : FileTree) (place : Place) (contents : List UInt8) (p : Place) :
    (t.write place contents).children p = t.children p := by
  rw [children, write, List.filterMap_map, children]
  congr 1
  funext e
  rw [Function.comp_apply]
  split <;> rfl

theorem find?_write (t : FileTree) (place : Place) (contents : List UInt8) (p : Place) :
    (t.write place contents).entries.find? (·.1 = p) =
      (t.entries.find? (·.1 = p)).map
        fun e => if e.1 = place then (e.1, .file contents) else e := by
  rw [write, List.find?_map]
  congr 2
  funext e
  rw [Function.comp_apply]
  split <;> rfl

theorem readText_of_file {t : FileTree} {p : Path} {place : Place} {contents : List UInt8}
    (hp : t.locate p = .ok place) (h : t.entry? place = some (.file contents)) :
    t.readText p = ((Utf8.toString? contents).map Except.ok).getD (.error .notText) := by
  have hread : t.readBytes p = .ok contents := by
    rw [readBytes, hp]
    simp only [h]
  rw [readText, hread]

section Write

variable {t : FileTree} {place : Place} {old : List UInt8}
  (h : t.entry? place = some (.file old)) (contents : List UInt8)

include h

theorem entry?_write (p : Place) :
    entry? (t.write place contents) p =
      if p = place then some (.file contents) else t.entry? p := by
  unfold entry?
  rw [find?_write]
  by_cases hp : p = place
  · subst hp
    unfold entry? at h
    rw [if_pos rfl]
    split at h
    next => simp at h
    next hdir =>
      obtain ⟨e, he, -⟩ := Option.map_eq_some_iff.1 h
      have hplace : e.1 = p := by simpa using List.find?_some he
      rw [write, if_neg hdir, he, Option.map_some, if_pos hplace]
      rfl
  · rw [if_neg hp, write]
    congr 1
    cases he : t.entries.find? (·.1 = p) with
    | none => rfl
    | some e =>
      have hplace : e.1 = p := by simpa using List.find?_some he
      rw [Option.map_some, if_neg (by rwa [hplace])]

theorem entry?_write_self :
    entry? (t.write place contents) place = some (.file contents) := by
  rw [entry?_write h, if_pos rfl]

theorem entry?_write_eq_dir_iff (p : Place) :
    entry? (t.write place contents) p = some .dir ↔ t.entry? p = some .dir := by
  rw [entry?_write h]
  split
  next hp => simp [hp, h]
  next => rfl

/-- A walk asks of an entry only whether it is there, a directory or a link. -/
theorem walkWith_write (follow : Place → Path → List Name → Except FileError Place)
    (r : Resolution) (here : Place) (ss : List Name) :
    (t.write place contents).walkWith follow r here ss = t.walkWith follow r here ss := by
  induction ss generalizing here with
  | nil => rfl
  | cons s rest ih =>
    rw [walkWith, walkWith]
    simp only [ne_eq, entry?_write_eq_dir_iff h, ih]
    by_cases hs : here ++ [s] = place
    · rw [entry?_write h, if_pos hs, hs, h]
    · rw [entry?_write h, if_neg hs]

theorem walk_write (r : Resolution) (budget : Nat) (here : Place) (ss : List Name) :
    (t.write place contents).walk r budget here ss = t.walk r budget here ss := by
  induction budget generalizing here ss with
  | zero => rw [walk, walk, walkWith_write h]
  | succ budget ih =>
    rw [walk, walk, walkWith_write h]
    simp only [ih]

theorem resolve_write (r : Resolution) (p : Path) :
    (t.write place contents).resolve r p = t.resolve r p := by
  rw [resolve, resolve, walk_write h]
  rfl

theorem locate_write (p : Path) : (t.write place contents).locate p = t.locate p :=
  resolve_write h contents .follow p

theorem pathExists_write (p : Path) :
    (t.write place contents).pathExists p = t.pathExists p := by
  rw [pathExists, locate_write h, pathExists]

theorem isDir_write (p : Path) : (t.write place contents).isDir p = t.isDir p := by
  rw [isDir, entryAt?, locate_write h, isDir, entryAt?]
  cases (t.locate p).toOption with
  | none => rfl
  | some q =>
    rw [Option.bind_some, Option.bind_some, Bool.eq_iff_iff, beq_iff_eq, beq_iff_eq]
    exact entry?_write_eq_dir_iff h contents q

theorem canonical?_write (p : Path) :
    (t.write place contents).canonical? p = t.canonical? p := by
  rw [canonical?, resolve_write h, canonical?]

theorem readLink?_write (p : Path) : (t.write place contents).readLink? p = t.readLink? p := by
  rw [readLink?, resolve_write h, readLink?]
  cases (t.resolve .keepLast p).toOption with
  | none => rfl
  | some q =>
    rw [Option.bind_some, Option.bind_some, entry?_write h]
    by_cases hq : q = place
    · rw [if_pos hq, hq, h]
    · rw [if_neg hq]

theorem list_write (p : Path) : (t.write place contents).list p = t.list p := by
  rw [list, locate_write h, list]
  cases t.locate p with
  | error e => rfl
  | ok q => simp only [entry?_write_eq_dir_iff h, children_write]

theorem readText_write {p : Path} (hp : t.locate p = .ok place) :
    (t.write place contents).readText p =
      ((Utf8.toString? contents).map Except.ok).getD (.error .notText) :=
  readText_of_file ((locate_write h contents p).trans hp) (entry?_write_self h contents)

theorem readText_write_of_ne {p : Path} (hp : t.locate p ≠ .ok place) :
    (t.write place contents).readText p = t.readText p := by
  have hread : (t.write place contents).readBytes p = t.readBytes p := by
    rw [readBytes, locate_write h, readBytes]
    cases hq : t.locate p with
    | error e => rfl
    | ok q =>
      have hne : q ≠ place := fun hq' => hp (by rw [hq, hq'])
      simp only [entry?_write h, if_neg hne]
  rw [readText, hread, readText]

end Write

end Hotplug.FileTree
