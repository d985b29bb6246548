import Hotplug.FileTree.Basic
import Hotplug.Proofs.Path.Relative
/-!
# Walks in two parts

A step of a walk that follows all links ends in an error, goes on from some place or follows a link,
whatever is to come (`step_cases`). So a walk along two lists of segments goes on from where the
first leads, with the links that are left (`exists_walk_append`), and two walks from one place end
alike unless one of them runs out of links (`walk_agree`). What is joined to a path is then found
from the place that the path leads to, however it leads there (`locate_join_agree`).
-/

namespace Hotplug.FileTree

variable {t : FileTree}

theorem step_cases (t : FileTree) (here : Place) (s : Name) :
    (∃ e, e ≠ .tooManyLinks ∧ ∀ follow rest,
        t.walkWith follow .follow here (s :: rest) = .error e) ∨
      (∃ next, ∀ follow rest,
        t.walkWith follow .follow here (s :: rest) = t.walkWith follow .follow next rest) ∨
      ∃ target, ∀ follow rest,
        t.walkWith follow .follow here (s :: rest) = follow here target rest := by
  by_cases hdir : t.entry? here ≠ some .dir
  · exact .inl ⟨.notADirectory, nofun, fun _ _ => by rw [walkWith, if_pos hdir]⟩
  by_cases hidle : s = [] ∨ s = Path.dot
  · exact .inr (.inl ⟨here, fun _ _ => by
      rw [walkWith, if_neg hdir, if_neg (by simp), if_pos hidle]⟩)
  by_cases hup : s = Path.dotDot
  · exact .inr (.inl ⟨here.dropLast, fun _ _ => by
      rw [walkWith, if_neg hdir, if_neg (by simp), if_neg hidle, if_pos hup]⟩)
  by_cases hlong : s.length > maxName
  · exact .inl ⟨.nameTooLong, nofun, fun _ _ => by
      rw [walkWith, if_neg hdir, if_neg (by simp), if_neg hidle, if_neg hup, if_pos (.inl hlong)]⟩
  cases hentry : t.entry? (here ++ [s]) with
  | none => exact .inl ⟨.notFound, nofun, fun _ _ => by
      simp [walkWith, hdir, hidle, hup, hlong, hentry]⟩
  | some e =>
    cases e with
    | link target => exact .inr (.inr ⟨target, fun _ _ => by
        simp [walkWith, hdir, hidle, hup, hlong, hentry]⟩)
    | dir => exact .inr (.inl ⟨here ++ [s], fun _ _ => by
        simp [walkWith, hdir, hidle, hup, hlong, hentry]⟩)
    | file contents => exact .inr (.inl ⟨here ++ [s], fun _ _ => by
        simp [walkWith, hdir, hidle, hup, hlong, hentry]⟩)

/-- A walk that does not run out of links does not depend on what would happen then. -/
theorem walkWith_congr {f g : Place → Path → List Name → Except FileError Place}
    (hfg : ∀ here target rest, f here target rest ≠ .error .tooManyLinks →
      g here target rest = f here target rest)
    {here : Place} {ss : List Name}
    (h : t.walkWith f .follow here ss ≠ .error .tooManyLinks) :
    t.walkWith g .follow here ss = t.walkWith f .follow here ss := by
  induction ss generalizing here with
  | nil => rfl
  | cons s rest ih =>
    rcases step_cases t here s with ⟨e, -, hstep⟩ | ⟨next, hstep⟩ | ⟨target, hstep⟩
    · rw [hstep, hstep]
    · rw [hstep] at h
      rw [hstep, hstep, ih h]
    · rw [hstep] at h
      rw [hstep, hstep, hfg _ _ _ h]

theorem walk_succ {budget : Nat} {here : Place} {ss : List Name}
    (h : t.walk .follow budget here ss ≠ .error .tooManyLinks) :
    t.walk .follow (budget + 1) here ss = t.walk .follow budget here ss := by
  induction budget generalizing here ss with
  | zero => exact walkWith_congr (fun _ _ _ hne => absurd rfl hne) h
  | succ budget ih => exact walkWith_congr (fun _ _ _ hne => ih hne) h

theorem walk_mono {budget more : Nat} (hle : budget ≤ more) {here : Place} {ss : List Name}
    (h : t.walk .follow budget here ss ≠ .error .tooManyLinks) :
    t.walk .follow more here ss = t.walk .follow budget here ss := by
  induction hle with
  | refl => rfl
  | step _ ih => rw [walk_succ (by rwa [ih]), ih]

theorem walk_agree {a b : Nat} {here : Place} {ss : List Name}
    (ha : t.walk .follow a here ss ≠ .error .tooManyLinks)
    (hb : t.walk .follow b here ss ≠ .error .tooManyLinks) :
    t.walk .follow a here ss = t.walk .follow b here ss := by
  rcases Nat.le_total a b with hle | hle
  · exact (walk_mono hle ha).symm
  · exact walk_mono hle hb

theorem exists_walkWith_append (budget : Nat)
    {follow : Place → Path → List Name → Except FileError Place} {place : Place}
    (hwalk : ∀ here ss, t.walk .follow budget here ss = t.walkWith follow .follow here ss)
    (hfollow : ∀ here target ss, follow here target ss = .ok place →
      ∃ left, ∀ rest, follow here target (ss ++ rest) = t.walk .follow left place rest)
    {here : Place} {ss : List Name} (h : t.walkWith follow .follow here ss = .ok place) :
    ∃ left, ∀ rest,
      t.walkWith follow .follow here (ss ++ rest) = t.walk .follow left place rest := by
  induction ss generalizing here with
  | nil =>
    obtain rfl := Except.ok.inj h
    exact ⟨budget, fun rest => (hwalk here rest).symm⟩
  | cons s ss ih =>
    rcases step_cases t here s with ⟨e, -, hstep⟩ | ⟨next, hstep⟩ | ⟨target, hstep⟩
    · rw [hstep] at h
      contradiction
    · rw [hstep] at h
      simp only [List.cons_append, hstep]
      exact ih h
    · rw [hstep] at h
      simp only [List.cons_append, hstep]
      exact hfollow _ _ _ h

theorem exists_walk_append {budget : Nat} {here place : Place} {ss : List Name}
    (h : t.walk .follow budget here ss = .ok place) :
    ∃ left, ∀ rest, t.walk .follow budget here (ss ++ rest) = t.walk .follow left place rest := by
  induction budget generalizing here ss with
  | zero => exact exists_walkWith_append 0 (fun _ _ => rfl) (fun _ _ _ h => by contradiction) h
  | succ budget ih =>
    refine exists_walkWith_append (budget + 1) (fun _ _ => rfl) (fun here target ss htarget => ?_) h
    obtain ⟨left, hleft⟩ := ih htarget
    exact ⟨left, fun rest => by rw [← hleft, List.append_assoc]⟩

/-! ## Paths -/

/-- The system does not follow a path to its end: it is too long, or it passes too many links. -/
def Refuses (t : FileTree) (p : Path) : Prop :=
  p.bytes.length > maxPath ∨ t.locate p = .error .tooManyLinks

theorem locate_eq_ok_iff {p : Path} {place : Place} :
    t.locate p = .ok place ↔
      (0 ∉ p.bytes ∧ p.bytes ≠ [] ∧ p.bytes.length ≤ maxPath) ∧
        t.walk .follow maxLinks (if p.isAbsolute then [] else t.workingDir) p.segments =
          .ok place := by
  rw [locate, resolve]
  by_cases hnul : 0 ∈ p.bytes
  · simp [hnul]
  by_cases hempty : p.bytes = []
  · simp [hempty]
  by_cases hlong : p.bytes.length > maxPath
  · simp [hnul, hempty, hlong, Nat.not_le.2 hlong]
  · simp [hnul, hempty, hlong, Nat.not_lt.1 hlong]

section Join

variable {p q rest : Path} {place : Place} (hrest : rest.isAbsolute = false)
  (hnul : 0 ∉ rest.bytes)

include hrest hnul

theorem exists_locate_join (hp : t.locate p = .ok place)
    (hend : p.bytes.getLast? ≠ some Path.slash) (hlength : (p.join rest).bytes.length ≤ maxPath) :
    ∃ left, t.locate (p.join rest) = t.walk .follow left place rest.segments := by
  obtain ⟨⟨hnulp, hempty, -⟩, hwalk⟩ := locate_eq_ok_iff.1 hp
  obtain ⟨left, hleft⟩ := exists_walk_append hwalk
  have hjoin : p.join rest = ⟨p.bytes ++ Path.slash :: rest.bytes⟩ := by
    rw [Path.join, if_neg (by simp [hrest]), if_neg (by simp [hempty, hend])]
  have habsolute : Path.isAbsolute ⟨p.bytes ++ Path.slash :: rest.bytes⟩ = p.isAbsolute := by
    obtain ⟨b, bs, hb⟩ := List.exists_cons_of_ne_nil hempty
    rw [Path.isAbsolute, Path.isAbsolute, hb]
    rfl
  refine ⟨left, ?_⟩
  rw [hjoin] at hlength ⊢
  rw [locate, resolve, if_neg (by simp [hnul, hnulp, Path.slash]), if_neg (by simp),
    if_neg fun hlong => Nat.not_lt.2 hlength hlong.2, habsolute, Path.segments_append_slash, ← hleft]

theorem locate_join_agree (hp : t.locate p = .ok place) (hq : t.locate q = .ok place)
    (hpend : p.bytes.getLast? ≠ some Path.slash) (hqend : q.bytes.getLast? ≠ some Path.slash)
    (hpfollowed : ¬ t.Refuses (p.join rest)) (hqfollowed : ¬ t.Refuses (q.join rest)) :
    t.locate (p.join rest) = t.locate (q.join rest) := by
  rw [Refuses, not_or, Nat.not_lt] at hpfollowed hqfollowed
  obtain ⟨left, hleft⟩ := exists_locate_join hrest hnul hp hpend hpfollowed.1
  obtain ⟨left', hleft'⟩ := exists_locate_join hrest hnul hq hqend hqfollowed.1
  rw [hleft] at hpfollowed
  rw [hleft'] at hqfollowed
  rw [hleft, hleft']
  exact walk_agree hpfollowed.2 hqfollowed.2

end Join

/-- Two dots behind a directory lead to the one it lies in, whatever links have led to it. -/
theorem locate_joinText_dotDot {p : Path} {place : Place} {name : Name}
    (hp : t.locate p = .ok (place ++ [name])) (hdir : t.entry? (place ++ [name]) = some .dir)
    (hend : p.bytes.getLast? ≠ some Path.slash)
    (hlength : (p.joinText "..").bytes.length ≤ maxPath) :
    t.locate (p.joinText "..") = .ok place := by
  obtain ⟨left, hleft⟩ := exists_locate_join (by decide) (by decide) hp hend hlength
  have hwalk (b : Nat) : t.walk .follow b (place ++ [name]) [Path.dotDot] = .ok place := by
    cases b <;> rw [walk, walkWith, if_neg (by simp [hdir]), if_neg (by simp),
      if_neg (by simp [Path.dotDot, Path.dot]), if_pos rfl, walkWith, List.dropLast_concat]
  exact hleft.trans (hwalk left)

theorem readText_congr {p q : Path} (h : t.locate p = t.locate q) :
    t.readText p = t.readText q := by
  rw [readText, readText, readBytes, readBytes, h]

theorem exists_readText_of_refuses {p : Path} (h : t.Refuses p) : ∃ e, t.readText p = .error e := by
  cases hlocate : t.locate p with
  | error e => exact ⟨e, by rw [readText, readBytes, hlocate]⟩
  | ok place =>
    rcases h with hlong | hlinks
    · exact absurd hlong (Nat.not_lt.2 (locate_eq_ok_iff.1 hlocate).1.2.2)
    · rw [hlocate] at hlinks
      contradiction

end Hotplug.FileTree
