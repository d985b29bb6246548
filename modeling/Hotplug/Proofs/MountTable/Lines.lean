import Hotplug.MountTable
import Hotplug.Proofs.Text.Boundary
import Hotplug.Proofs.Text.Split
import Hotplug.Proofs.Text.Strict
/-!
# The lines of a mount table

A table is read as bytes. Bytes are text exactly if every line of them is, and the mounts of a table
are those of its lines, one after the other (`ofBytes?_joinLines`). A line of text that mounts no
device therefore adds nothing, but of a table with a line that is not text nothing is left at all.
-/

namespace Hotplug

theorem Utf8.decode?_append_linefeed (as bs : List UInt8) :
    decode? (as ++ 0x0A :: bs) =
      (decode? as).bind fun s => (decode? bs).map fun t => s ++ '\n' :: t := by
  ext cs
  simp only [Option.bind_eq_some_iff, Option.map_eq_some_iff, decode?_eq_some_iff]
  constructor
  · intro h
    obtain ⟨s, t, rfl, hs, ht⟩ := exists_of_encode_eq_append_cons (by decide) h
    exact ⟨s, hs, t, ht, rfl⟩
  · rintro ⟨s, rfl, t, rfl, rfl⟩
    rw [encode_append, encode_cons]
    rfl

namespace Mount

def joinLines (ls : List (List UInt8)) : List UInt8 :=
  [0x0A].intercalate ls

/-- The mounts of a table, if it is text. -/
def ofBytes? (table : List UInt8) : Option (List Mount) :=
  (Utf8.toString? table).map parse

/-- The first field of a line is not below `/dev`. -/
def Foreign (line : List UInt8) : Prop :=
  ∀ field ∈ (words (Utf8.decodeLossy line)).head?, ¬deviceRoot <+: field

instance (line : List UInt8) : Decidable (Foreign line) := by
  unfold Foreign
  infer_instance

theorem ofBytes?_eq_none_iff {table : List UInt8} :
    ofBytes? table = none ↔ Utf8.toString? table = none :=
  Option.map_eq_none_iff

theorem ofBytes?_append (as bs : List UInt8) :
    ofBytes? (as ++ 0x0A :: bs) =
      (ofBytes? as).bind fun ms => (ofBytes? bs).map (ms ++ ·) := by
  simp only [ofBytes?, Utf8.toString?, Utf8.decode?_append_linefeed]
  cases Utf8.decode? as with
  | none => rfl
  | some s =>
    cases Utf8.decode? bs with
    | none => rfl
    | some t =>
      have htext : String.ofList (s ++ '\n' :: t) =
          String.ofList s ++ "\n" ++ String.ofList t := by
        apply String.toList_injective
        simp
      simp only [Option.map_some, Option.bind_some, htext, parse_append]

theorem ofBytes?_joinLines (ls : List (List UInt8)) :
    ofBytes? (joinLines ls) = (ls.mapM ofBytes?).map List.flatten := by
  induction ls with
  | nil => rfl
  | cons line ls ih =>
    cases ls with
    | nil =>
      rw [joinLines, List.intercalate_singleton, List.mapM_cons, List.mapM_nil]
      cases ofBytes? line <;> simp
    | cons next ls =>
      have hjoin : joinLines (line :: next :: ls) = line ++ 0x0A :: joinLines (next :: ls) := by
        simp [joinLines, List.intercalate_cons_cons]
      have hmapM : (line :: next :: ls).mapM ofBytes? = (ofBytes? line).bind fun ms =>
          ((next :: ls).mapM ofBytes?).bind fun rest => some (ms :: rest) := List.mapM_cons
      rw [hjoin, ofBytes?_append, ih, hmapM]
      cases ofBytes? line with
      | none => rfl
      | some ms => cases (next :: ls).mapM ofBytes? <;> rfl

theorem ofBytes?_joinLines_insert (before behind : List (List UInt8)) {line : List UInt8}
    (h : ofBytes? line = some []) :
    ofBytes? (joinLines (before ++ line :: behind)) = ofBytes? (joinLines (before ++ behind)) := by
  simp only [ofBytes?_joinLines, List.mapM_append, List.mapM_cons, h]
  cases before.mapM ofBytes? with
  | none => rfl
  | some front => cases behind.mapM ofBytes? <;> simp

theorem ofBytes?_joinLines_eq_none (before behind : List (List UInt8)) {line : List UInt8}
    (h : ofBytes? line = none) : ofBytes? (joinLines (before ++ line :: behind)) = none := by
  rw [ofBytes?_joinLines, List.mapM_append, List.mapM_cons, h]
  cases before.mapM ofBytes? <;> rfl

theorem ofBytes?_joinLines_cons (before behind : List (List UInt8)) {line : List UInt8} {m : Mount}
    (h : ofBytes? line = some [m]) :
    ofBytes? (joinLines (before ++ line :: behind)) =
      (before.mapM ofBytes?).bind fun front =>
        (behind.mapM ofBytes?).map fun back => front.flatten ++ m :: back.flatten := by
  rw [ofBytes?_joinLines, List.mapM_append, List.mapM_cons, h]
  cases before.mapM ofBytes? with
  | none => rfl
  | some front => cases behind.mapM ofBytes? <;> simp

/-- Two tables that differ in a line with one mount are both no text, or list the same mounts but for
that one. -/
theorem ofBytes?_joinLines_swap (before behind : List (List UInt8)) {line line' : List UInt8}
    {m m' : Mount} (h : ofBytes? line = some [m]) (h' : ofBytes? line' = some [m']) :
    (ofBytes? (joinLines (before ++ line :: behind)) = none ∧
        ofBytes? (joinLines (before ++ line' :: behind)) = none) ∨
      ∃ front back, ofBytes? (joinLines (before ++ line :: behind)) = some (front ++ m :: back) ∧
        ofBytes? (joinLines (before ++ line' :: behind)) = some (front ++ m' :: back) := by
  rw [ofBytes?_joinLines_cons before behind h, ofBytes?_joinLines_cons before behind h']
  cases before.mapM ofBytes? with
  | none => exact .inl ⟨rfl, rfl⟩
  | some front =>
    cases behind.mapM ofBytes? with
    | none => exact .inl ⟨rfl, rfl⟩
    | some back => exact .inr ⟨front.flatten, back.flatten, rfl, rfl⟩

theorem ofBytes?_of_foreign {line : List UInt8} {text : String} (hline : 0x0A ∉ line)
    (hforeign : Foreign line) (htext : Utf8.toString? line = some text) :
    ofBytes? line = some [] := by
  obtain rfl := Utf8.toString?_eq_some_iff.1 htext
  have hlinefeed : '\n' ∉ text.toList := fun hmem =>
    hline (List.mem_flatMap.2 ⟨'\n', hmem, by decide⟩)
  have hdecode : Utf8.decodeLossy (Utf8.ofString text) = text.toList :=
    Utf8.decodeLossy_encode _
  have hmount : ofLine? text.toList = none := by
    rw [Foreign, hdecode] at hforeign
    rw [ofLine?]
    split
    next device _ _ _ hwords =>
      rw [hwords] at hforeign
      rw [if_neg fun hroot => hforeign device rfl (List.isPrefixOf_iff_prefix.1 hroot)]
    next => rfl
  rw [ofBytes?, htext, Option.map_some, parse, lines, List.splitOn_eq_singleton hlinefeed,
    List.filterMap_cons_none hmount, List.filterMap_nil]

theorem slash_mem {text : String} (h : parse text ≠ []) : '/' ∈ text.toList := by
  obtain ⟨m, hm⟩ := List.exists_mem_of_ne_nil _ h
  obtain ⟨line, hline, hm⟩ := List.mem_filterMap.1 hm
  unfold ofLine? at hm
  split at hm
  next device point fsType rest hwords =>
    split at hm
    next hroot =>
      have hdevice : device ∈ line.splitOnP isBlank := by
        have hmem : device ∈ words line := by simp [hwords]
        exact (List.mem_filter.1 hmem).1
      have hslash : '/' ∈ device := (List.isPrefixOf_iff_prefix.1 hroot).subset (by decide)
      exact mem_of_mem_splitOnP hline (mem_of_mem_splitOnP hdevice hslash)
    next => contradiction
  next => contradiction

end Mount

end Hotplug
