import Hotplug.Proofs.Path.Relative
import Hotplug.Proofs.Text.Strict
/-!
# The last name of a path

The last component of a path, if it is a name at all, is a name for one entry of a directory
(`ordinary_of_fileName?`). To join such a name is to go down by one component
(`components_joinText`).
-/

namespace Hotplug.Path

/-- The name of one entry of a directory: not empty, not `.` or `..`, and without a slash. -/
structure Ordinary (name : String) : Prop where
  ne_empty : name ≠ ""
  ne_dot : name ≠ "."
  ne_dotDot : name ≠ ".."
  slash_not_mem : '/' ∉ name.toList

theorem component?_eq_name_iff {s n : List UInt8} :
    component? s = some (.name n) ↔ s = n ∧ n ≠ [] ∧ n ≠ dot ∧ n ≠ dotDot := by
  unfold component?
  by_cases hidle : s = [] ∨ s = dot
  · rw [if_pos hidle]
    constructor
    · nofun
    · rintro ⟨rfl, hnil, hdot, -⟩
      exact absurd hidle (by simp [hnil, hdot])
  · rw [if_neg hidle]
    rw [not_or] at hidle
    by_cases hup : s = dotDot
    · rw [if_pos hup]
      constructor
      · nofun
      · rintro ⟨rfl, -, -, hne⟩
        exact absurd hup hne
    · rw [if_neg hup, Option.some.injEq, Component.name.injEq]
      constructor
      · rintro rfl
        exact ⟨rfl, hidle.1, hidle.2, hup⟩
      · exact fun h => h.1

theorem mem_segments_of_fileName? {p : Path} {n : List UInt8} (h : p.fileName? = some n) :
    n ∈ p.segments ∧ component? n = some (.name n) := by
  have hlast : p.components.getLast? = some (.name n) := by
    unfold fileName? at h
    split at h
    next m hm => rw [hm, Option.some.inj h]
    next => contradiction
  have hmem : Component.name n ∈ p.anchor ++ p.steps := List.mem_of_getLast? hlast
  rcases List.mem_append.1 hmem with hanchor | hstep
  · exact absurd (isAnchor_of_mem_anchor hanchor) (by simp [isAnchor])
  · obtain ⟨s, hs, hsn⟩ := List.mem_filterMap.1 hstep
    obtain rfl := (component?_eq_name_iff.1 hsn).1
    exact ⟨hs, hsn⟩

theorem ordinary_of_fileName? {p : Path} {n : List UInt8} {name : String}
    (h : p.fileName? = some n) (hname : Utf8.toString? n = some name) : Ordinary name := by
  obtain ⟨hmem, hstep⟩ := mem_segments_of_fileName? h
  obtain ⟨-, hnil, hdot, hdotDot⟩ := component?_eq_name_iff.1 hstep
  obtain rfl := Utf8.toString?_eq_some_iff.1 hname
  refine ⟨?_, ?_, ?_, fun hslash => ?_⟩
  · rintro rfl
    exact hnil rfl
  · rintro rfl
    exact hdot rfl
  · rintro rfl
    exact hdotDot rfl
  · -- The byte of a slash would have cut the segment.
    have hbyte : slash ∈ Utf8.ofString name := by
      rw [Utf8.ofString, Utf8.encode, List.mem_flatMap]
      exact ⟨'/', hslash, by decide⟩
    have hne := forall_not_of_mem_splitOnP hmem slash hbyte
    simp at hne

section Ordinary

variable {name : String}

theorem Ordinary.bytes_ne_nil (h : Ordinary name) : Utf8.ofString name ≠ [] := by
  apply Utf8.encode_ne_nil
  intro hnil
  exact h.ne_empty (String.toList_eq_nil_iff.1 hnil)

theorem Ordinary.slash_not_mem_bytes (h : Ordinary name) : slash ∉ Utf8.ofString name := by
  intro hmem
  rw [Utf8.ofString, Utf8.encode, List.mem_flatMap] at hmem
  obtain ⟨c, hc, hbyte⟩ := hmem
  have hcode : c.toNat = 0x2F := Utf8.toNat_eq_of_mem_encodeChar hbyte (by decide)
  obtain rfl : c = '/' := Char.toNat_inj.1 hcode
  exact h.slash_not_mem hc

theorem Ordinary.component?_eq (h : Ordinary name) :
    component? (Utf8.ofString name) = some (.name (Utf8.ofString name)) := by
  have hinj {s : String} (hs : Utf8.ofString name = Utf8.ofString s) : name = s :=
    String.toList_inj.1 (Utf8.encode_inj.1 hs)
  exact component?_eq_name_iff.2
    ⟨rfl, h.bytes_ne_nil, fun hdot => h.ne_dot (hinj hdot), fun hup => h.ne_dotDot (hinj hup)⟩

theorem Ordinary.steps_eq (h : Ordinary name) :
    steps (.ofString name) = [.name (Utf8.ofString name)] := by
  have hsegments : segments (.ofString name) = [Utf8.ofString name] :=
    List.splitOn_eq_singleton h.slash_not_mem_bytes
  rw [steps, hsegments, List.filterMap_cons_some h.component?_eq, List.filterMap_nil]

theorem Ordinary.not_isAbsolute (h : Ordinary name) : isAbsolute (.ofString name) = false := by
  obtain ⟨b, bs, hb⟩ := List.exists_cons_of_ne_nil h.bytes_ne_nil
  have hne : b ≠ slash := by
    rintro rfl
    exact h.slash_not_mem_bytes (hb ▸ List.mem_cons_self)
  simp [isAbsolute, ofString, hb, hne]

theorem components_joinText {p : Path} (hp : p.bytes ≠ []) (h : Ordinary name) :
    (p.joinText name).components = p.components ++ [.name (Utf8.ofString name)] := by
  rw [joinText, components_join hp h.not_isAbsolute, h.steps_eq]

end Ordinary

end Hotplug.Path
