import Hotplug.Json.Text
import Hotplug.Json.Write
/-!
# Strings in JSON, there and back

What is written for a character is read as that character, whatever follows (`readString_escape`), so
a string is read as the text that was quoted.
-/

namespace Hotplug.Json

theorem unit?_digitChar {n : Nat} (h : n < 0x20) :
    unit? '0' '0' (n / 16).digitChar (n % 16).digitChar = some n := by
  have hall : ∀ n < 0x20, unit? '0' '0' (n / 16).digitChar (n % 16).digitChar = some n := by decide
  exact hall n h

theorem readString_letter {l c : Char} (hl : l ≠ 'u') (hc : letter? l = some c) (s : List Char) :
    readString ('\\' :: l :: s) = push c (readString s) := by
  rw [readString.eq_def]
  split
  case h_6 heq =>
    obtain ⟨rfl, rfl⟩ := List.cons.inj (List.cons.inj heq).2
    simp only [hc]
  case h_7 hne heq => exact (hne _ _ (List.cons.inj heq).1.symm (List.cons.inj heq).2.symm).elim
  all_goals simp_all

theorem readString_unit {a b c d : Char} {n : Nat} (hn : unit? a b c d = some n) (hlow : n < 0xD800)
    (s : List Char) :
    readString ('\\' :: 'u' :: a :: b :: c :: d :: s) = push (Char.ofNat n) (readString s) := by
  rw [readString, hn]
  simp only [hlow, true_or, if_true]

theorem readString_raw {c : Char} (hquote : c ≠ '"') (hescape : c ≠ '\\') (hc : 0x20 ≤ c.toNat)
    (s : List Char) : readString (c :: s) = push c (readString s) := by
  rw [readString.eq_def]
  split
  case h_7 heq =>
    obtain ⟨rfl, rfl⟩ := List.cons.inj heq
    rw [if_neg (by omega)]
  all_goals simp_all

theorem readString_escape (c : Char) (s : List Char) :
    readString (escape c ++ s) = push c (readString s) := by
  unfold escape
  split
  case h_8 hquote hescape _ _ _ _ _ =>
    split
    next hc =>
      have hunit := readString_unit (unit?_digitChar hc) (by omega) s
      rwa [Char.ofNat_toNat] at hunit
    next hc => exact readString_raw hquote hescape (by omega) s
  all_goals exact readString_letter (by decide) rfl s

theorem readString_escapes (s rest : List Char) :
    readString (s.flatMap escape ++ '"' :: rest) = .ok (s, rest) := by
  induction s with
  | nil => rw [List.flatMap_nil, List.nil_append, readString]
  | cons c s ih =>
    rw [List.flatMap_cons, List.append_assoc, readString_escape, ih]
    rfl

end Hotplug.Json
