import Hotplug.MountTable
import Mathlib.Data.List.Basic
/-!
# Lines put into a mount table

No line of a mount table depends on another. The mounts of a table are those of its lines, wherever
it is cut and however the lines end, so a line that mounts no device can be put in or taken out at
any place (`parse_is_linewise`).
-/

namespace Hotplug

def dropReturn (line : List Char) : List Char :=
  if line.getLast? = some '\r' then line.dropLast else line

/-- The lines of a text, each ended by a line feed with or without a carriage return before it. What
stands behind the last end is a line if it is not empty. -/
def endedLines (s : List Char) : List (List Char) :=
  (lines s).dropLast.map dropReturn ++ (lines s).getLast?.toList.filter (· ≠ [])

theorem words_dropReturn (line : List Char) : words (dropReturn line) = words line := by
  unfold dropReturn
  split
  next hlast =>
    obtain ⟨front, rfl⟩ := List.getLast?_eq_some_iff.1 hlast
    have hnone : words [] = [] := by simp [words]
    rw [List.dropLast_concat, words_append (by decide), hnone, List.append_nil]
  next => rfl

theorem lines_ne_nil (s : List Char) : lines s ≠ [] :=
  List.splitOn_ne_nil '\n' s

namespace Mount

/-- A line that mounts no device: it has fewer than three fields, or the first one is not below
`/dev`. -/
def Skipped (line : List Char) : Prop :=
  (words line).length < 3 ∨ ∀ field ∈ (words line).head?, ¬ deviceRoot <+: field

instance (line : List Char) : Decidable (Skipped line) := by
  unfold Skipped
  infer_instance

theorem ofLine?_eq_none_iff {line : List Char} : ofLine? line = none ↔ Skipped line := by
  unfold ofLine? Skipped
  split
  next device point fsType rest hwords =>
    have hmany : ¬ (device :: point :: fsType :: rest).length < 3 := by simp
    rw [hwords, or_iff_right hmany]
    simp [List.isPrefixOf_iff_prefix]
  next hfew =>
    refine iff_of_true rfl (.inl ?_)
    match hwords : words line with
    | [] | [_] | [_, _] => simp
    | _ :: _ :: _ :: _ => exact absurd hwords (hfew _ _ _ _)

theorem ofLine?_dropReturn (line : List Char) : ofLine? (dropReturn line) = ofLine? line := by
  rw [ofLine?, words_dropReturn, ofLine?]

theorem parse_eq_filterMap_endedLines (text : String) :
    parse text = (endedLines text.toList).filterMap ofLine? := by
  obtain ⟨front, last, hlines⟩ : ∃ front last, lines text.toList = front ++ [last] :=
    ⟨_, _, (List.dropLast_concat_getLast (lines_ne_nil text.toList)).symm⟩
  have hends : (front.map dropReturn).filterMap ofLine? = front.filterMap ofLine? := by
    rw [List.filterMap_map]
    exact List.filterMap_congr fun line _ => ofLine?_dropReturn line
  have hlast : ([last].filter (· ≠ [])).filterMap ofLine? = [last].filterMap ofLine? := by
    cases last with
    | nil => rfl
    | cons c last => simp
  rw [parse, endedLines, hlines, List.dropLast_concat, List.getLast?_concat, Option.toList_some,
    List.filterMap_append, List.filterMap_append, hends, hlast]

theorem parse_of_line {line : String} (h : '\n' ∉ line.toList) :
    parse line = (ofLine? line.toList).toList := by
  rw [parse, lines, List.splitOn_eq_singleton h]
  cases hmount : ofLine? line.toList <;> simp [hmount]

def StartsLine (a : String) : Prop :=
  a = "" ∨ ∃ front, a = front ++ "\n"

/-- A text, and the same text with one more line in it. -/
inductive Insertion (line : String) : String → String → Prop
  | before {a : String} (b : String) (h : StartsLine a) :
    Insertion line (a ++ b) (a ++ line ++ "\n" ++ b)
  /-- As the last line, which has no end. -/
  | last {a : String} (h : StartsLine a) : Insertion line a (a ++ line)
  /-- Behind a last line that had no end. -/
  | behind (a : String) : Insertion line a (a ++ "\n" ++ line)

theorem parse_append_of_startsLine {a : String} (h : StartsLine a) (b : String) :
    parse (a ++ b) = parse a ++ parse b := by
  have hempty : parse "" = [] := rfl
  rcases h with rfl | ⟨front, rfl⟩
  · rw [String.empty_append, hempty, List.nil_append]
  · have hfront := parse_append front ""
    rw [hempty, List.append_nil, String.append_empty] at hfront
    rw [parse_append, hfront]

theorem Insertion.exists_parse {line text text' : String} (hline : '\n' ∉ line.toList)
    (h : Insertion line text text') :
    ∃ front back, parse text = front ++ back ∧
      parse text' = front ++ (ofLine? line.toList).toList ++ back := by
  rw [← parse_of_line hline]
  cases h with
  | @before a b h =>
    refine ⟨parse a, parse b, parse_append_of_startsLine h b, ?_⟩
    rw [parse_append, parse_append_of_startsLine h]
  | last h =>
    refine ⟨parse text, [], (List.append_nil _).symm, ?_⟩
    rw [parse_append_of_startsLine h, List.append_nil]
  | behind =>
    refine ⟨parse text, [], (List.append_nil _).symm, ?_⟩
    rw [parse_append, List.append_nil]

/-- The mounts of a text are those of its parts and those of its lines, at most one of each. A line
is put in or taken out at any place without a change exactly if it mounts no device. -/
theorem parse_is_linewise :
    (∀ a b : String, parse (a ++ "\n" ++ b) = parse a ++ parse b) ∧
      (∀ text : String, parse text = (endedLines text.toList).filterMap ofLine? ∧
        (parse text).length ≤ (endedLines text.toList).length) ∧
      ∀ line text text' : String, '\n' ∉ line.toList → Insertion line text text' →
        (parse text' = parse text ↔ Skipped line.toList) := by
  refine ⟨parse_append, fun text => ?_, fun line text text' hline hinsertion => ?_⟩
  · have hlines := parse_eq_filterMap_endedLines text
    refine ⟨hlines, ?_⟩
    rw [hlines]
    exact List.length_filterMap_le ofLine? _
  · obtain ⟨front, back, hold, hnew⟩ := hinsertion.exists_parse hline
    rw [← ofLine?_eq_none_iff, hold, hnew]
    cases ofLine? line.toList with
    | none => simp
    | some m =>
      refine iff_of_false (fun hsame => ?_) (Option.some_ne_none m)
      have hlength := congrArg List.length hsame
      simp at hlength

/-- A line with a no-break space and a line end of two characters, put between a line that ends in a
carriage return and one that ends in a backslash. -/
theorem parse_is_linewise_returns :
    let line := "proc\u00a0 /proc\\040 \r"
    let a := "/dev/sdb /u\\040v vfat rw 0 0\r\n"
    let b := "/dev/sdc /w\u3000ext4 rw\\"
    '\n' ∉ line.toList ∧ Insertion line (a ++ b) (a ++ line ++ "\n" ++ b) ∧ Skipped line.toList ∧
      parse (a ++ line ++ "\n" ++ b) = parse (a ++ b) ∧
      (parse (a ++ b)).map (·.point.toStringLossy) = ["/u v", "/w"] := by
  intro line a b
  have hline : '\n' ∉ line.toList := by decide +kernel
  have hinsertion : Insertion line (a ++ b) (a ++ line ++ "\n" ++ b) :=
    .before b (.inr ⟨"/dev/sdb /u\\040v vfat rw 0 0\r", by decide⟩)
  have hskipped : Skipped line.toList := by decide +kernel
  obtain ⟨-, -, hinsert⟩ := parse_is_linewise
  exact ⟨hline, hinsertion, hskipped, (hinsert line _ _ hline hinsertion).2 hskipped,
    by decide +kernel⟩

end Mount

end Hotplug
