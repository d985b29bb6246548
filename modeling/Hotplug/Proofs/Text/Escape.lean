import Hotplug.Proofs.Text.Writing
/-!
# Writing octal escapes

Any character may be written as the octal escapes of its bytes, and a backslash has to be. Undoing
the escapes gives the text, whichever characters were chosen (`octal_undoes_writing`).
-/

namespace Hotplug.Escape

open Utf8 (encode encode_cons)

def octalEscape (b : UInt8) : List Char :=
  ['\\', Nat.digitChar (b.toNat / 64), Nat.digitChar (b.toNat / 8 % 8),
    Nat.digitChar (b.toNat % 8)]

def writeOctal (s : List (Char × Bool)) : List Char :=
  s.flatMap fun x => if x.2 then (String.utf8EncodeChar x.1).flatMap octalEscape else [x.1]

/-- A backslash and three octal digits that make up the byte. -/
def IsOctalEscape (b : UInt8) (e : List Char) : Prop :=
  ∃ x < 8, ∃ y < 8, ∃ z < 8, b.toNat = x * 64 + y * 8 + z ∧
    e = ['\\', Nat.digitChar x, Nat.digitChar y, Nat.digitChar z]

theorem isOctalEscape_octalEscape (b : UInt8) : IsOctalEscape b (octalEscape b) := by
  have hb : b.toNat < 256 := b.toNat_lt
  exact ⟨b.toNat / 64, by omega, b.toNat / 8 % 8, by omega, b.toNat % 8, by omega, by omega, rfl⟩

theorem writing_writeOctal (s : List (Char × Bool)) : Writing IsOctalEscape s (writeOctal s) :=
  writing_flatMap isOctalEscape_octalEscape s

theorem encode_octalDigits {x y z : Nat} (hx : x < 8) (hy : y < 8) (hz : z < 8) :
    encode ['\\', Nat.digitChar x, Nat.digitChar y, Nat.digitChar z] =
      [0x5C, UInt8.ofNat (0x30 + x), UInt8.ofNat (0x30 + y), UInt8.ofNat (0x30 + z)] := by
  have hdigit : ∀ n < 8, String.utf8EncodeChar (Nat.digitChar n) = [UInt8.ofNat (0x30 + n)] := by
    decide
  simp only [encode_cons, hdigit x hx, hdigit y hy, hdigit z hz]
  rfl

theorem octalValue_digits {x y z : Nat} (hx : x < 4) (hy : y < 8) (hz : z < 8) :
    isOctalTriplet (UInt8.ofNat (0x30 + x)) (UInt8.ofNat (0x30 + y)) (UInt8.ofNat (0x30 + z)) =
        true ∧
      octalValue (UInt8.ofNat (0x30 + x)) (UInt8.ofNat (0x30 + y)) (UInt8.ofNat (0x30 + z)) =
        UInt8.ofNat (x * 64 + y * 8 + z) := by
  have hall : ∀ x < 4, ∀ y < 8, ∀ z < 8,
      isOctalTriplet (UInt8.ofNat (0x30 + x)) (UInt8.ofNat (0x30 + y)) (UInt8.ofNat (0x30 + z)) =
          true ∧
        octalValue (UInt8.ofNat (0x30 + x)) (UInt8.ofNat (0x30 + y)) (UInt8.ofNat (0x30 + z)) =
          UInt8.ofNat (x * 64 + y * 8 + z) := by decide
  exact hall x hx y hy z hz

theorem unescapeOctal_cons_of_ne {a : UInt8} (h : a ≠ backslash) (bs : List UInt8) :
    unescapeOctal (a :: bs) = a :: unescapeOctal bs := by
  rw [unescapeOctal.eq_def (a :: bs)]
  split
  next heq => simp at heq
  next heq => exact absurd (List.cons.inj heq).1 h
  next heq =>
    obtain ⟨rfl, rfl⟩ := List.cons.inj heq
    rfl

/-- The first digit of a byte is at most 3, so its escape is one that is undone. -/
theorem undoes_unescapeOctal : Undoes unescapeOctal IsOctalEscape where
  nil := rfl
  raw := unescapeOctal_cons_of_ne
  escape := by
    rintro b _ ⟨x, hx, y, hy, z, hz, hb, rfl⟩ bs
    have hlt : b.toNat < 256 := b.toNat_lt
    obtain ⟨htriplet, hvalue⟩ := octalValue_digits (x := x) (by omega) hy hz
    rw [← hb, UInt8.ofNat_toNat] at hvalue
    rw [encode_octalDigits hx hy hz]
    simp only [List.cons_append, List.nil_append, unescapeOctal, htriplet, if_true, hvalue]

/-- Whichever characters of a text are escaped, all backslashes among them, undoing the escapes
gives the text. -/
theorem octal_undoes_writing {s : List (Char × Bool)} (h : ∀ x ∈ s, x.1 = '\\' → x.2 = true) :
    (∃ w, Writing IsOctalEscape s w) ∧
      ∀ w, Writing IsOctalEscape s w → octal w = s.map Prod.fst := by
  constructor
  · exact ⟨writeOctal s, writing_writeOctal s⟩
  · intro w hw
    rw [octal]
    exact undoes_unescapeOctal.decodeLossy_read h hw

/-- A letter of two bytes is escaped before a digit and stands as it is before an escaped sign of
three bytes, and digits behind an escaped backslash are no escape. -/
theorem octal_undoes_mixed :
    let s := [('é', true), ('7', false), ('\\', true), ('1', false), ('0', false), ('1', false),
      ('é', false), ('€', true)]
    let w := "\\303\\2517\\134101é\\342\\202\\254".toList
    (∀ x ∈ s, x.1 = '\\' → x.2 = true) ∧ Writing IsOctalEscape s w ∧
      octal w = "é7\\101é€".toList := by
  intro s w
  have hmarks : ∀ x ∈ s, x.1 = '\\' → x.2 = true := by decide
  have hwritten : writeOctal s = w := by decide
  have hw : Writing IsOctalEscape s w := hwritten ▸ writing_writeOctal s
  exact ⟨hmarks, hw, (octal_undoes_writing hmarks).2 w hw⟩

theorem octal_ne_nil {s : List Char} (h : s ≠ []) : octal s ≠ [] := by
  apply Utf8.decodeLossy_ne_nil
  have hbytes := Utf8.encode_ne_nil h
  cases hb : encode s with
  | nil => contradiction
  | cons b bs =>
    rw [unescapeOctal.eq_def]
    split
    · contradiction
    · split <;> simp
    · simp

end Hotplug.Escape
