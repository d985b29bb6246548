import Hotplug.Proofs.Text.Writing
/-!
# Writing hexadecimal escapes

Any character may be written as the hexadecimal escapes of its bytes, with the letters among the
digits in either case, and a backslash has to be. Undoing the escapes gives the text, whichever
characters and cases were chosen (`hex_undoes_writing`).
-/

namespace Hotplug.Escape

open Utf8 (encode encode_cons)

def hexEscape (b : UInt8) : List Char :=
  ['\\', 'x', Nat.digitChar (b.toNat / 16), Nat.digitChar (b.toNat % 16)]

def writeHex (s : List (Char × Bool)) : List Char :=
  s.flatMap fun x => if x.2 then (String.utf8EncodeChar x.1).flatMap hexEscape else [x.1]

def hexDigits (n : Nat) : List Char :=
  [Nat.digitChar n, (Nat.digitChar n).toUpper]

/-- A backslash, an `x` and two hexadecimal digits that make up the byte. -/
def IsHexEscape (b : UInt8) (e : List Char) : Prop :=
  ∃ x < 16, ∃ y < 16, b.toNat = x * 16 + y ∧
    ∃ c ∈ hexDigits x, ∃ d ∈ hexDigits y, e = ['\\', 'x', c, d]

theorem isHexEscape_hexEscape (b : UInt8) : IsHexEscape b (hexEscape b) := by
  have hb : b.toNat < 256 := b.toNat_lt
  exact ⟨b.toNat / 16, by omega, b.toNat % 16, by omega, by omega, _, List.mem_cons_self,
    _, List.mem_cons_self, rfl⟩

theorem writing_writeHex (s : List (Char × Bool)) : Writing IsHexEscape s (writeHex s) :=
  writing_flatMap isHexEscape_hexEscape s

theorem hexDigit?_of_mem_hexDigits {n : Nat} (hn : n < 16) {d : Char} (hd : d ∈ hexDigits n) :
    ∃ x, String.utf8EncodeChar d = [x] ∧ hexDigit? x = some (UInt8.ofNat n) := by
  -- `List.all` keeps the check to the list, where a bounded `∀` may go through all characters.
  have hall : ∀ n < 16, (hexDigits n).all fun d =>
      String.utf8EncodeChar d = [UInt8.ofNat d.toNat] ∧
        hexDigit? (UInt8.ofNat d.toNat) = some (UInt8.ofNat n) := by decide
  exact ⟨_, of_decide_eq_true (List.all_eq_true.1 (hall n hn) d hd)⟩

theorem hexValue?_of_isHexEscape {b : UInt8} {e : List Char} (h : IsHexEscape b e) :
    ∃ x y, encode e = [0x5C, 0x78, x, y] ∧ hexValue? x y = some b := by
  obtain ⟨m, hm, n, hn, hb, c, hc, d, hd, rfl⟩ := h
  obtain ⟨x, hx, hxvalue⟩ := hexDigit?_of_mem_hexDigits hm hc
  obtain ⟨y, hy, hyvalue⟩ := hexDigit?_of_mem_hexDigits hn hd
  refine ⟨x, y, ?_, ?_⟩
  · simp only [encode_cons, hx, hy]
    rfl
  · rw [hexValue?, hxvalue, hyvalue, Option.some.injEq, ← UInt8.toNat_inj, hb]
    simp
    omega

theorem unescapeHex_cons_of_ne {b : UInt8} (h : b ≠ backslash) (ws : List UInt8) :
    unescapeHex (b :: ws) = b :: unescapeHex ws := by
  rw [unescapeHex.eq_def (b :: ws)]
  split
  next heq => simp at heq
  next heq => exact absurd (List.cons.inj heq).1 h
  next heq =>
    obtain ⟨rfl, rfl⟩ := List.cons.inj heq
    rfl

theorem undoes_unescapeHex : Undoes unescapeHex IsHexEscape where
  nil := rfl
  raw := unescapeHex_cons_of_ne
  escape := by
    intro b e he bs
    obtain ⟨x, y, hbytes, hvalue⟩ := hexValue?_of_isHexEscape he
    rw [hbytes]
    simp only [List.cons_append, List.nil_append, unescapeHex, hvalue]

/-- Whichever characters of a text are escaped, all backslashes among them, and in whichever case,
undoing the escapes gives the text. -/
theorem hex_undoes_writing {s : List (Char × Bool)} (h : ∀ x ∈ s, x.1 = '\\' → x.2 = true) :
    (∃ w, Writing IsHexEscape s w) ∧
      ∀ w, Writing IsHexEscape s w → hex w = s.map Prod.fst := by
  constructor
  · exact ⟨writeHex s, writing_writeHex s⟩
  · intro w hw
    rw [hex]
    exact undoes_unescapeHex.decodeLossy_read h hw

/-- A letter of two bytes is escaped in both cases before a digit and stands as it is before an
escaped backslash, what follows the backslash is no escape, and the last character is escaped. -/
theorem hex_undoes_mixed :
    let s := [('é', true), ('A', false), ('é', false), ('\\', true), ('x', false), ('4', false),
      ('1', false), ('/', true)]
    let w := "\\xC3\\xa9Aé\\x5cx41\\x2F".toList
    (∀ x ∈ s, x.1 = '\\' → x.2 = true) ∧ Writing IsHexEscape s w ∧
      hex w = "éAé\\x41/".toList := by
  intro s w
  have hmarks : ∀ x ∈ s, x.1 = '\\' → x.2 = true := by decide
  have hletter : List.Forall₂ IsHexEscape (String.utf8EncodeChar 'é')
      [['\\', 'x', 'C', '3'], ['\\', 'x', 'a', '9']] :=
    .cons ⟨12, by decide, 3, by decide, rfl, 'C', by decide, '3', by decide, rfl⟩
      (.cons ⟨10, by decide, 9, by decide, rfl, 'a', by decide, '9', by decide, rfl⟩ .nil)
  have hbackslash : List.Forall₂ IsHexEscape (String.utf8EncodeChar '\\')
      [['\\', 'x', '5', 'c']] :=
    .cons ⟨5, by decide, 12, by decide, rfl, '5', by decide, 'c', by decide, rfl⟩ .nil
  have hslash : List.Forall₂ IsHexEscape (String.utf8EncodeChar '/') [['\\', 'x', '2', 'F']] :=
    .cons ⟨2, by decide, 15, by decide, rfl, '2', by decide, 'F', by decide, rfl⟩ .nil
  have hw : Writing IsHexEscape s w :=
    .escaped hletter (.raw (.raw (.escaped hbackslash (.raw (.raw (.raw (.escaped hslash .nil)))))))
  exact ⟨hmarks, hw, (hex_undoes_writing hmarks).2 w hw⟩

theorem unescapeHex_ne_nil {ws : List UInt8} (h : ws ≠ []) : unescapeHex ws ≠ [] := by
  cases ws with
  | nil => contradiction
  | cons b ws =>
    rw [unescapeHex.eq_def]
    split
    · contradiction
    · split <;> simp
    · simp

theorem hex_ne_nil {s : List Char} (h : s ≠ []) : hex s ≠ [] :=
  Utf8.decodeLossy_ne_nil (unescapeHex_ne_nil (Utf8.encode_ne_nil h))

end Hotplug.Escape
