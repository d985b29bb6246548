import Hotplug.Proofs.Path.Order
import Hotplug.Proofs.Text.Split
/-!
# Joining paths

A path is an anchor, which is the root or a leading `.` or nothing, and steps behind it. To join a
path is to append its steps (`components_join`). What remains of a path below a base has no anchor
and the steps behind those of the base (`exists_relativeTo?`), so it leads to the path again from the
place of the base and from nowhere else (`join_same_iff`).
-/

namespace Hotplug.Path

def steps (p : Path) : List Component :=
  p.segments.filterMap component?

theorem components_eq (p : Path) : p.components = p.anchor ++ p.steps := rfl

def isAnchor : Component → Bool
  | .root | .here => true
  | _ => false

theorem not_isAnchor_of_component? {s : List UInt8} {c : Component} (h : component? s = some c) :
    isAnchor c = false := by
  unfold component? at h
  split at h
  · contradiction
  · split at h <;> cases h <;> rfl

theorem isAnchor_of_mem_anchor {p : Path} {c : Component} (h : c ∈ p.anchor) :
    isAnchor c = true := by
  unfold anchor at h
  split at h
  · rw [List.mem_singleton.1 h]
    rfl
  · split at h
    · rw [List.mem_singleton.1 h]
      rfl
    · contradiction

theorem anchor_eq_filter (p : Path) : p.anchor = p.components.filter isAnchor := by
  have hsteps : p.steps.filter isAnchor = [] := by
    rw [List.filter_eq_nil_iff]
    intro c hc
    obtain ⟨s, -, hs⟩ := List.mem_filterMap.1 hc
    simp [not_isAnchor_of_component? hs]
  rw [components_eq, List.filter_append, hsteps, List.append_nil,
    List.filter_eq_self.2 fun c => isAnchor_of_mem_anchor]

theorem isAbsolute_iff {p : Path} : p.isAbsolute = true ↔ p.anchor = [.root] := by
  unfold anchor
  cases p.isAbsolute
  · simp only [Bool.false_eq_true, if_false]
    split <;> simp
  · simp

theorem Same.isAbsolute_eq {p q : Path} (h : p.Same q) : p.isAbsolute = q.isAbsolute := by
  rw [Bool.eq_iff_iff, isAbsolute_iff, isAbsolute_iff, anchor_eq_filter, anchor_eq_filter, h]

theorem not_isAnchor_of_mem_tail {p : Path} {c : Component} (h : c ∈ p.components.tail) :
    isAnchor c = false := by
  have hsteps : c ∈ p.steps := by
    rw [components_eq] at h
    unfold anchor at h
    split at h
    · exact h
    · split at h
      · exact h
      · exact List.mem_of_mem_tail h
  obtain ⟨s, -, hs⟩ := List.mem_filterMap.1 hsteps
  exact not_isAnchor_of_component? hs

theorem anchor_steps_of_append {p base : Path} {k : List Component} (hbase : base.components ≠ [])
    (h : base.components ++ k = p.components) :
    p.anchor = base.anchor ∧ p.steps = base.steps ++ k := by
  have hk : k.filter isAnchor = [] := by
    obtain ⟨b, bs, hb⟩ := List.exists_cons_of_ne_nil hbase
    rw [List.filter_eq_nil_iff]
    intro c hc
    have htail : c ∈ p.components.tail := by
      rw [← h, hb, List.cons_append, List.tail_cons]
      exact List.mem_append_right bs hc
    simp [not_isAnchor_of_mem_tail htail]
  have hanchor : p.anchor = base.anchor := by
    rw [anchor_eq_filter, ← h, List.filter_append, hk, List.append_nil, ← anchor_eq_filter]
  refine ⟨hanchor, ?_⟩
  rw [components_eq, components_eq, hanchor, List.append_assoc] at h
  exact (List.append_cancel_left h).symm

theorem exists_segments_cons {b : UInt8} (hb : b ≠ slash) (bs : List UInt8) :
    ∃ w tail, segments ⟨b :: bs⟩ = (b :: w) :: tail := by
  obtain ⟨w, tail, hw⟩ := List.exists_cons_of_ne_nil (List.splitOn_ne_nil slash bs)
  refine ⟨w, tail, ?_⟩
  rw [segments, List.splitOn_cons_eq_if_modifyHead, if_neg (by simpa using hb), hw]
  rfl

theorem components_ne_nil {p : Path} (h : p.bytes ≠ []) : p.components ≠ [] := by
  obtain ⟨b, bs, hb⟩ := List.exists_cons_of_ne_nil h
  intro hnil
  obtain ⟨hanchor, hsteps⟩ := List.append_eq_nil_iff.1 hnil
  by_cases hslash : b = slash
  · have habsolute : p.isAbsolute = true := by simp [isAbsolute, hb, hslash]
    rw [isAbsolute_iff.1 habsolute] at hanchor
    contradiction
  · -- The first segment is not empty, so it is a step or else the leading dot.
    obtain ⟨w, ws, hw⟩ : ∃ w ws, p.segments = (b :: w) :: ws := by
      obtain ⟨_⟩ := p
      obtain rfl : _ = b :: bs := hb
      exact exists_segments_cons hslash bs
    have habsolute : p.isAbsolute = false := by simp [isAbsolute, hb, hslash]
    have hdot : b :: w ≠ dot := by
      intro hdot
      simp [anchor, habsolute, hw, hdot] at hanchor
    have hstep : component? (b :: w) ≠ none := by
      unfold component?
      rw [if_neg (by simp [hdot])]
      split <;> simp
    rw [hw, List.filterMap_eq_nil_iff] at hsteps
    exact hstep (hsteps _ List.mem_cons_self)

/-! ## Joining -/

theorem segments_append_slash (a b : List UInt8) :
    segments ⟨a ++ slash :: b⟩ = segments ⟨a⟩ ++ segments ⟨b⟩ :=
  List.splitOn_append_cons_self a b

theorem steps_append_slash (a b : List UInt8) :
    steps ⟨a ++ slash :: b⟩ = steps ⟨a⟩ ++ steps ⟨b⟩ := by
  rw [steps, segments_append_slash, List.filterMap_append, steps, steps]

theorem anchor_append_slash {a : List UInt8} (ha : a ≠ []) (b : List UInt8) :
    anchor ⟨a ++ slash :: b⟩ = anchor ⟨a⟩ := by
  have habsolute : isAbsolute ⟨a ++ slash :: b⟩ = isAbsolute ⟨a⟩ := by
    obtain ⟨x, xs, rfl⟩ := List.exists_cons_of_ne_nil ha
    rfl
  have hhead : (segments ⟨a ++ slash :: b⟩).head? = (segments ⟨a⟩).head? := by
    obtain ⟨w, ws, hw⟩ := List.exists_cons_of_ne_nil (List.splitOn_ne_nil slash a)
    rw [segments_append_slash, segments, hw]
    rfl
  rw [anchor, anchor, habsolute, hhead]

theorem components_join {p rest : Path} (hp : p.bytes ≠ []) (hrest : rest.isAbsolute = false) :
    (p.join rest).components = p.components ++ rest.steps := by
  rw [join, if_neg (by simp [hrest])]
  split
  next hslash =>
    -- The slash at the end of `p` parts the two.
    obtain ⟨a, ha⟩ := List.getLast?_eq_some_iff.1 (hslash.resolve_left hp)
    obtain ⟨_⟩ := p
    obtain rfl : _ = a ++ slash :: [] := ha
    have hanchor : anchor ⟨a ++ slash :: rest.bytes⟩ = anchor ⟨a ++ slash :: []⟩ := by
      cases a with
      | nil => rfl
      | cons x xs => rw [anchor_append_slash (List.cons_ne_nil x xs),
          anchor_append_slash (List.cons_ne_nil x xs)]
    rw [List.append_assoc, List.cons_append, List.nil_append, components_eq, components_eq, hanchor,
      steps_append_slash, steps_append_slash, List.append_assoc, List.append_assoc]
    rfl
  next =>
    rw [components_eq, steps_append_slash, anchor_append_slash hp, components_eq, List.append_assoc]

/-- To join nothing leaves the place, though it may add a slash. -/
theorem join_empty_same {p : Path} (hp : p.bytes ≠ []) : (p.join .empty).Same p := by
  rw [Same, components_join hp rfl]
  exact List.append_nil _

/-! ## What remains below a base -/

theorem filterMap_dropComponents (n : Nat) (ss : List (List UInt8)) :
    (dropComponents n ss).filterMap component? = (ss.filterMap component?).drop n := by
  induction ss generalizing n with
  | nil => cases n <;> rfl
  | cons s ss ih =>
    cases n with
    | zero => rfl
    | succ n =>
      cases hs : component? s with
      | none => simp [dropComponents, hs, ih]
      | some c => simp [dropComponents, hs, ih]

theorem mem_of_mem_dropComponents {n : Nat} {ss : List (List UInt8)} {s : List UInt8}
    (h : s ∈ dropComponents n ss) : s ∈ ss := by
  induction ss generalizing n with
  | nil => cases n <;> exact h
  | cons t ss ih =>
    cases n with
    | zero => exact h
    | succ n =>
      rw [dropComponents] at h
      split at h <;> exact List.mem_cons_of_mem t (ih h)

theorem filterMap_dropWhile (ss : List (List UInt8)) :
    (ss.dropWhile fun s => (component? s).isNone).filterMap component? =
      ss.filterMap component? := by
  induction ss with
  | nil => rfl
  | cons s ss ih =>
    cases hs : component? s with
    | none => simp [hs, ih]
    | some c => simp [hs]

theorem filterMap_trimEnd (ss : List (List UInt8)) :
    (trimEnd ss).filterMap component? = ss.filterMap component? := by
  rw [trimEnd, List.filterMap_reverse, filterMap_dropWhile, List.filterMap_reverse,
    List.reverse_reverse]

theorem filterMap_trimSegments (ss : List (List UInt8)) :
    (trimSegments ss).filterMap component? = ss.filterMap component? := by
  rw [trimSegments, filterMap_trimEnd, filterMap_dropWhile]

theorem mem_of_mem_trimEnd {ss : List (List UInt8)} {s : List UInt8} (h : s ∈ trimEnd ss) :
    s ∈ ss :=
  List.mem_reverse.1 ((List.dropWhile_sublist _).subset (List.mem_reverse.1 h))

theorem mem_of_mem_trimSegments {ss : List (List UInt8)} {s : List UInt8}
    (h : s ∈ trimSegments ss) : s ∈ ss :=
  (List.dropWhile_sublist _).subset (mem_of_mem_trimEnd h)

theorem component?_head_trimSegments {ss rest : List (List UInt8)} {s : List UInt8}
    (h : trimSegments ss = s :: rest) : component? s ≠ none := by
  have hprefix : s :: rest <+: ss.dropWhile fun s => (component? s).isNone := by
    rw [← h, trimSegments, trimEnd, ← List.reverse_suffix, List.reverse_reverse]
    exact List.dropWhile_suffix _
  obtain ⟨t, ht⟩ := hprefix
  have hhead := List.head?_dropWhile_not (fun s => (component? s).isNone) ss
  rw [← ht, List.cons_append, List.head?_cons] at hhead
  intro hnone
  simp [hnone] at hhead

theorem steps_intercalate {ss : List (List UInt8)} (hslash : ∀ s ∈ ss, slash ∉ s) :
    steps ⟨[slash].intercalate ss⟩ = ss.filterMap component? := by
  cases ss with
  | nil => rfl
  | cons s rest =>
    rw [steps, segments, List.splitOn_intercalate slash hslash (List.cons_ne_nil s rest)]

theorem isAbsolute_intercalate {s : List UInt8} (hslash : slash ∉ s) (hs : s ≠ [])
    (rest : List (List UInt8)) : isAbsolute ⟨[slash].intercalate (s :: rest)⟩ = false := by
  obtain ⟨b, bs, rfl⟩ := List.exists_cons_of_ne_nil hs
  have hb : b ≠ slash := by
    rintro rfl
    exact hslash List.mem_cons_self
  cases rest <;> simp [isAbsolute, List.intercalate, hb]

theorem intercalate_segments {ss : List (List UInt8)} (hslash : ∀ s ∈ ss, slash ∉ s)
    (hhead : ∀ s rest, ss = s :: rest → component? s ≠ none) :
    isAbsolute ⟨[slash].intercalate ss⟩ = false ∧
      steps ⟨[slash].intercalate ss⟩ = ss.filterMap component? := by
  refine ⟨?_, steps_intercalate hslash⟩
  cases ss with
  | nil => rfl
  | cons s rest =>
    have hs : s ≠ [] := by
      rintro rfl
      exact hhead [] rest rfl rfl
    exact isAbsolute_intercalate (hslash s List.mem_cons_self) hs rest

theorem slash_not_mem_of_mem_segments {p : Path} {s : List UInt8} (h : s ∈ p.segments) :
    slash ∉ s := by
  intro hmem
  have hne := forall_not_of_mem_splitOnP h slash hmem
  simp at hne

theorem components_slash (bs : List UInt8) : components ⟨slash :: bs⟩ = .root :: steps ⟨bs⟩ := by
  have hsteps : steps ⟨slash :: bs⟩ = steps ⟨bs⟩ := steps_append_slash [] bs
  rw [components_eq, hsteps]
  rfl

theorem components_intercalate {s : List UInt8} {ss : List (List UInt8)}
    (hslash : ∀ u ∈ s :: ss, slash ∉ u) (hs : s ≠ []) :
    components ⟨[slash].intercalate (s :: ss)⟩ =
      (if s = dot then [.here] else []) ++ (s :: ss).filterMap component? := by
  have hsegments : segments ⟨[slash].intercalate (s :: ss)⟩ = s :: ss :=
    List.splitOn_intercalate slash hslash (List.cons_ne_nil s ss)
  rw [components, anchor, isAbsolute_intercalate (hslash s List.mem_cons_self) hs, hsegments]
  simp

theorem tidy_same (p : Path) : p.tidy.Same p := by
  obtain ⟨_ | ⟨b, bs⟩⟩ := p
  · rfl
  by_cases hb : b = slash
  · subst hb
    have hsegments : segments ⟨slash :: bs⟩ = [] :: segments ⟨bs⟩ := segments_append_slash [] bs
    have htidy : tidy ⟨slash :: bs⟩ = ⟨slash :: [slash].intercalate (trimEnd (segments ⟨bs⟩))⟩ := by
      rw [tidy, hsegments]
      rfl
    have hslash : ∀ u ∈ trimEnd (segments ⟨bs⟩), slash ∉ u := fun u hu =>
      slash_not_mem_of_mem_segments (mem_of_mem_trimEnd hu)
    rw [Same, htidy, components_slash, components_slash, steps_intercalate hslash,
      filterMap_trimEnd]
    rfl
  · obtain ⟨w, tail, hsegments⟩ := exists_segments_cons hb bs
    have hslash : ∀ u ∈ (b :: w) :: tail, slash ∉ u := fun u hu =>
      slash_not_mem_of_mem_segments (hsegments ▸ hu)
    have hslash' : ∀ u ∈ (b :: w) :: trimEnd tail, slash ∉ u := fun u hu =>
      hslash u (List.cons_subset_cons _ (fun _ => mem_of_mem_trimEnd) hu)
    have hrelative : isAbsolute ⟨b :: bs⟩ = false := by simp [isAbsolute, hb]
    calc (tidy ⟨b :: bs⟩).components
      _ = components ⟨[slash].intercalate ((b :: w) :: trimEnd tail)⟩ := by
        rw [tidy, hrelative, hsegments]
        rfl
      _ = (if b :: w = dot then [.here] else []) ++ ((b :: w) :: tail).filterMap component? := by
        rw [components_intercalate hslash' (List.cons_ne_nil b w), List.filterMap_cons,
          filterMap_trimEnd, ← List.filterMap_cons]
      _ = components ⟨[slash].intercalate ((b :: w) :: tail)⟩ :=
        (components_intercalate hslash (List.cons_ne_nil b w)).symm
      _ = components ⟨b :: bs⟩ := by
        rw [← hsegments, segments, List.intercalate_splitOn]

theorem anchor_of_relativeTo? {p base rest : Path} (hbase : base.bytes ≠ [])
    (h : p.relativeTo? base = some rest) : rest.anchor = [] := by
  rw [relativeTo?, if_neg hbase] at h
  split at h
  case isFalse => contradiction
  obtain rfl := Option.some.inj h
  let ss := trimSegments (dropComponents (base.depth - base.anchor.length) p.segments)
  have hslash : ∀ s ∈ ss, slash ∉ s := fun s hs =>
    slash_not_mem_of_mem_segments (mem_of_mem_dropComponents (mem_of_mem_trimSegments hs))
  have hhead : ∀ s rest, ss = s :: rest → component? s ≠ none := fun s rest =>
    component?_head_trimSegments
  change anchor ⟨[slash].intercalate ss⟩ = []
  rw [anchor, (intercalate_segments hslash hhead).1]
  cases hss : ss with
  | nil => rfl
  | cons s rest =>
    have hsegments : segments ⟨[slash].intercalate ss⟩ = ss :=
      List.splitOn_intercalate slash hslash (by simp [hss])
    have hdot : s ≠ dot := by
      rintro rfl
      exact hhead dot rest hss rfl
    rw [← hss, hsegments, hss]
    simp [hdot]

theorem exists_relativeTo? {p base : Path} (hbase : base.bytes ≠ [])
    (h : p.startsWith base = true) :
    ∃ rest, p.relativeTo? base = some rest ∧ rest.isAbsolute = false ∧
      p.components = base.components ++ rest.steps := by
  obtain ⟨k, hk⟩ := startsWith_iff.1 h
  obtain ⟨hanchor, hsteps⟩ := anchor_steps_of_append (components_ne_nil hbase) hk
  have hpassed : base.depth - base.anchor.length = base.steps.length := by
    rw [depth, components_eq, List.length_append, Nat.add_sub_cancel_left]
  have hslash : ∀ s ∈ trimSegments (dropComponents base.steps.length p.segments), slash ∉ s :=
    fun s hs =>
      slash_not_mem_of_mem_segments (mem_of_mem_dropComponents (mem_of_mem_trimSegments hs))
  obtain ⟨habsolute, hrest⟩ := intercalate_segments hslash fun s rest =>
    component?_head_trimSegments
  refine ⟨_, ?_, habsolute, ?_⟩
  · rw [relativeTo?, if_neg hbase, if_pos h, hpassed]
  · rw [hrest, filterMap_trimSegments, filterMap_dropComponents, ← steps, hsteps,
      List.drop_left, hk]

theorem join_same_iff {p base q rest : Path} (hq : q.bytes ≠ []) (hrest : rest.isAbsolute = false)
    (h : p.components = base.components ++ rest.steps) :
    (q.join rest).Same p ↔ q.Same base := by
  rw [Same, components_join hq hrest, h, List.append_left_inj]
  rfl

theorem components_of_relativeTo? {p base rest : Path} (h : p.relativeTo? base = some rest) :
    p.components = base.components ++ rest.components := by
  by_cases hbase : base.bytes = []
  · rw [relativeTo?, if_pos hbase] at h
    obtain rfl := Option.some.inj h
    obtain ⟨_⟩ := base
    obtain rfl : _ = [] := hbase
    exact p.tidy_same.symm
  cases hcontains : p.startsWith base with
  | false => simp [relativeTo?, hbase, hcontains] at h
  | true =>
    obtain ⟨other, hrest, -, hsteps⟩ := exists_relativeTo? hbase hcontains
    obtain rfl := Option.some.inj (hrest.symm.trans h)
    rw [hsteps, components_eq other, anchor_of_relativeTo? hbase h, List.nil_append]

theorem Same.relativeTo? {p q base rest rest' : Path} (h : p.Same q)
    (hp : p.relativeTo? base = some rest) (hq : q.relativeTo? base = some rest') :
    rest.Same rest' := by
  rw [Same, components_of_relativeTo? hp, components_of_relativeTo? hq] at h
  exact List.append_cancel_left h

end Hotplug.Path
