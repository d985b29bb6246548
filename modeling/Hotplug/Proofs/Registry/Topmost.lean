import Hotplug.Proofs.Registry.History
/-!
# The mount on top of a path

Of the mounts whose points contain a path, the deepest ones are all at one place, and the last of
them in the table is on top. A registry answers with the record at that place, which is the topmost
mount's own if its disk is removable (`topmost_mount_decides`). A fixed disk on top hides what is
mounted farther up (`nested_fixed_disk_hides`), but not a removable disk mounted at the very same
place before it (`stacked_fixed_disk_shows_removable`).
-/

namespace Hotplug

theorem lastMax?_append_cons {α : Type} {measure : α → Nat} {before behind : List α} {x : α}
    (hbefore : ∀ y ∈ before, measure y ≤ measure x)
    (hbehind : ∀ y ∈ behind, measure y < measure x) :
    lastMax? measure (before ++ x :: behind) = some x := by
  induction before with
  | nil =>
    rw [List.nil_append, lastMax?]
    cases hy : lastMax? measure behind with
    | none => rfl
    | some y =>
      have hlt := hbehind y (mem_of_lastMax? hy)
      exact if_neg (Nat.not_le.2 hlt)
  | cons z zs ih =>
    obtain ⟨hz, hzs⟩ := List.forall_mem_cons.1 hbefore
    rw [List.cons_append, lastMax?, ih hzs]
    exact if_pos hz

namespace MountRegistry

/-- The mount on top of a path: no mount that contains the path is deeper, and none behind it in the
table is as deep. -/
def Topmost (mounts : List Mount) (p : Path) (m : Mount) : Prop :=
  ∃ before behind, mounts = before ++ m :: behind ∧ p.startsWith m.point = true ∧
    (∀ x ∈ before, p.startsWith x.point = true → x.point.depth ≤ m.point.depth) ∧
    ∀ x ∈ behind, p.startsWith x.point = true → x.point.depth < m.point.depth

theorem Topmost.depth_le {mounts : List Mount} {p : Path} {m x : Mount} (h : Topmost mounts p m)
    (hx : x ∈ mounts) (hp : p.startsWith x.point = true) : x.point.depth ≤ m.point.depth := by
  obtain ⟨before, behind, rfl, -, hbefore, hbehind⟩ := h
  rcases List.mem_append.1 hx with hx | hx
  · exact hbefore x hx hp
  · rcases List.mem_cons.1 hx with rfl | hx
    · exact Nat.le_refl _
    · exact Nat.le_of_lt (hbehind x hx hp)

theorem exists_topmost {mounts : List Mount} {p : Path}
    (h : ∃ x ∈ mounts, p.startsWith x.point = true) : ∃ m, Topmost mounts p m := by
  induction mounts with
  | nil => simp at h
  | cons y ys ih =>
    by_cases hys : ∃ x ∈ ys, p.startsWith x.point = true
    · obtain ⟨m, hm⟩ := ih hys
      -- The first line is below a later one as deep as itself.
      by_cases hy : p.startsWith y.point = true ∧ m.point.depth < y.point.depth
      · refine ⟨y, [], ys, rfl, hy.1, by simp, fun x hx hp => ?_⟩
        exact Nat.lt_of_le_of_lt (hm.depth_le hx hp) hy.2
      · obtain ⟨before, behind, rfl, hp, hbefore, hbehind⟩ := hm
        refine ⟨m, y :: before, behind, rfl, hp, ?_, hbehind⟩
        rw [List.forall_mem_cons]
        exact ⟨fun hpy => Nat.not_lt.1 fun hlt => hy ⟨hpy, hlt⟩, hbefore⟩
    · obtain ⟨x, hx, hp⟩ := h
      rcases List.mem_cons.1 hx with rfl | hx
      · refine ⟨x, [], ys, rfl, hp, by simp, fun z hz hpz => ?_⟩
        exact absurd ⟨z, hz, hpz⟩ hys
      · exact absurd ⟨x, hx, hp⟩ hys

theorem deviceAt?_of_topmost {r : MountRegistry} {mounts : List Mount} {p : Path} {m : Mount}
    (hpoints : r.points = mounts.map (·.point)) (hm : Topmost mounts p m) :
    r.deviceAt? p = recordAt? r.devices m.point := by
  obtain ⟨before, behind, rfl, hp, hbefore, hbehind⟩ := hm
  have htop : lastMax? Path.depth (r.points.filter p.startsWith) = some m.point := by
    rw [hpoints, List.map_append, List.map_cons, List.filter_append, List.filter_cons_of_pos hp]
    apply lastMax?_append_cons
    · intro q hq
      obtain ⟨hq, hpq⟩ := List.mem_filter.1 hq
      obtain ⟨x, hx, rfl⟩ := List.mem_map.1 hq
      exact hbefore x hx hpq
    · intro q hq
      obtain ⟨hq, hpq⟩ := List.mem_filter.1 hq
      obtain ⟨x, hx, rfl⟩ := List.mem_map.1 hq
      exact hbehind x hx hpq
  rw [deviceAt?, htop, Option.bind_some]

theorem deviceAt?_eq_none_of_outside {r : MountRegistry} {mounts : List Mount} {p : Path}
    (hpoints : r.points = mounts.map (·.point))
    (h : ∀ x ∈ mounts, p.startsWith x.point = false) : r.deviceAt? p = none := by
  have hnone : r.points.filter p.startsWith = [] := by
    rw [hpoints, List.filter_eq_nil_iff]
    intro q hq
    obtain ⟨x, hx, rfl⟩ := List.mem_map.1 hq
    simp [h x hx]
  rw [deviceAt?, hnone]
  rfl

theorem blockAt?_of_topmost {config : Config} {t : FileTree} {p : Path} {m : Mount}
    {block : String} (hm : Topmost (table config t) p m)
    (hblock : removableBlock? config t m = some block) :
    blockAt? config t m.point = some block := by
  obtain ⟨before, behind, htable, hp, -, hbehind⟩ := hm
  -- A line behind `m` at its place would contain `p` too, and be as deep.
  have hlast : behind.filter (·.point.Same m.point) = [] := by
    rw [List.filter_eq_nil_iff]
    intro x hx hsame
    have hsame : x.point.Same m.point := of_decide_eq_true hsame
    have hlt := hbehind x hx (by rw [hsame.startsWith_eq, hp])
    rw [hsame.depth_eq] at hlt
    exact Nat.lt_irrefl _ hlt
  simp [blockAt?, htable, hlast, hblock]

theorem blockAt?_eq_none_iff {config : Config} {t : FileTree} {p : Path} :
    blockAt? config t p = none ↔
      ∀ x ∈ table config t, x.point.Same p → removableBlock? config t x = none := by
  simp [blockAt?]

/-- The answer for a path is the record of the topmost mount if its disk is removable. If it is not,
the answer is what is tracked at the place of the topmost mount: nothing, exactly if no removable
disk is mounted at that very place. -/
theorem topmost_mount_decides (config : Config) (xs : List Reading) {t : FileTree}
    {now : Instant} {events : List Event} {r : MountRegistry}
    (hr : (after config xs).refresh t now = .ok (events, r)) (p : Path) :
    ((∀ x ∈ table config t, p.startsWith x.point = false) → r.deviceAt? p = none) ∧
      ((∃ x ∈ table config t, p.startsWith x.point = true) →
        ∃ m, Topmost (table config t) p m) ∧
      ∀ m, Topmost (table config t) p m →
        (∀ block, removableBlock? config t m = some block →
          ∃ d ∈ r.devices, r.deviceAt? p = some d ∧ d.location.Same m.point ∧
            d.id.uniqueId = uniqueIdOf config t block) ∧
        (removableBlock? config t m = none →
          (r.deviceAt? p).map (·.id.uniqueId) = trackedId? config t m.point ∧
          (r.deviceAt? p = none ↔ ∀ x ∈ table config t, x.point.Same m.point →
            removableBlock? config t x = none)) := by
  have htracks := (tracks_after config xs).refresh hr
  refine ⟨deviceAt?_eq_none_of_outside htracks.points_eq, exists_topmost, fun m hm => ?_⟩
  have hat := deviceAt?_of_topmost htracks.points_eq hm
  have hid : (recordAt? r.devices m.point).map (·.id.uniqueId) = trackedId? config t m.point :=
    htracks.uniqueId_eq m.point
  constructor
  · intro block hblock
    rw [trackedId?, blockAt?_of_topmost hm hblock, Option.map_some] at hid
    obtain ⟨d, hd, hdid⟩ := Option.map_eq_some_iff.1 hid
    exact ⟨d, mem_of_recordAt? hd, hat.trans hd, same_of_recordAt? hd, hdid⟩
  · intro _
    rw [hat, ← blockAt?_eq_none_iff]
    refine ⟨hid, ?_⟩
    rw [← Option.map_eq_none_iff, hid, trackedId?, Option.map_eq_none_iff]

/-- A fixed disk mounted inside a removable one hides it there. -/
theorem nested_fixed_disk_hides :
    let t := plainTree "/dev/sdb /u vfat rw 0 0\n/dev/sda /u/n ext4 rw 0 0\n"
      [("sdb", "1\n"), ("sda", "0\n")]
    let p := Path.ofString "/u/n/b"
    let m : Mount := ⟨.ofString "/dev/sda", .ofString "/u/n", "ext4"⟩
    Topmost (table plainConfig t) p m ∧
      ∃ events r, (after plainConfig []).refresh t ⟨10, 0⟩ = .ok (events, r) ∧
        r.deviceAt? p = none := by
  intro t p m
  have htop : Topmost (table plainConfig t) p m :=
    ⟨[⟨.ofString "/dev/sdb", .ofString "/u", "vfat"⟩], [], by decide +kernel⟩
  have hread : t.readText (after plainConfig []).config.mountsPath =
      .ok "/dev/sdb /u vfat rw 0 0\n/dev/sda /u/n ext4 rw 0 0\n" := by decide +kernel
  obtain ⟨events, r, hr⟩ := exists_refresh_eq_ok hread ⟨10, 0⟩
  obtain ⟨-, hhides⟩ := (topmost_mount_decides plainConfig [] hr p).2.2 m htop
  exact ⟨htop, events, r, hr, (hhides (by decide +kernel)).2.2 (by decide +kernel)⟩

/-- A fixed disk mounted at the very place of a removable one is on top of it, and does not hide
it. -/
theorem stacked_fixed_disk_shows_removable :
    let t := plainTree "/dev/sdb /u vfat rw 0 0\n/dev/sda /u ext4 rw 0 0\n"
      [("sdb", "1\n"), ("sda", "0\n")]
    let p := Path.ofString "/u/a"
    let m : Mount := ⟨.ofString "/dev/sda", .ofString "/u", "ext4"⟩
    Topmost (table plainConfig t) p m ∧ removableBlock? plainConfig t m = none ∧
      ∃ events r, (after plainConfig []).refresh t ⟨10, 0⟩ = .ok (events, r) ∧
        (r.deviceAt? p).map (·.id.text) = some "nodcim:DEV:sdb" := by
  intro t p m
  refine ⟨⟨[⟨.ofString "/dev/sdb", .ofString "/u", "vfat"⟩], [], by decide +kernel⟩,
    by decide +kernel, _, _,
    refresh_eq_ok_iff.2 ⟨⟨"/dev/sdb /u vfat rw 0 0\n/dev/sda /u ext4 rw 0 0\n", ?_⟩, rfl, rfl⟩,
    ?_⟩
  all_goals decide +kernel

end MountRegistry

end Hotplug
