import Hotplug.Proofs.Text.Utf8
/-!
# Where text may be cut

A place in text is given as a number of bytes, and not every number leads to a place between two
characters. A byte below 0x80 is a character of its own wherever it stands
(`exists_of_encode_eq_append_cons`), so the text may be cut before it and behind it.
-/

namespace Hotplug.Utf8

/-- The text in front of a place and the text behind it, if the place lies between two
characters. -/
def cutAt? : Nat → List Char → Option (List Char × List Char)
  | 0, s => some ([], s)
  | _ + 1, [] => none
  | n + 1, c :: s =>
    if c.utf8Size ≤ n + 1 then
      (cutAt? (n + 1 - c.utf8Size) s).map fun p => (c :: p.1, p.2)
    else none

theorem cutAt?_append (s t : List Char) : cutAt? (size s) (s ++ t) = some (s, t) := by
  induction s with
  | nil => cases t <;> rfl
  | cons c s ih =>
    have hsize : size (c :: s) = c.utf8Size - 1 + size s + 1 := by
      have hpos : 0 < c.utf8Size := c.utf8Size_pos
      change c.utf8Size + size s = _
      omega
    have hrest : c.utf8Size - 1 + size s + 1 - c.utf8Size = size s := by
      have hpos : 0 < c.utf8Size := c.utf8Size_pos
      omega
    rw [hsize, List.cons_append, cutAt?, if_pos (by omega), hrest, ih]
    rfl

theorem cutAt?_length_encode (s t : List Char) :
    cutAt? (encode s).length (s ++ t) = some (s, t) := by
  rw [length_encode, cutAt?_append]

theorem exists_of_encode_eq_append_cons {cs : List Char} {as bs : List UInt8} {b : UInt8}
    (hb : b.toNat < 0x80) (h : encode cs = as ++ b :: bs) :
    ∃ s t, cs = s ++ Char.ofNat b.toNat :: t ∧ encode s = as ∧ encode t = bs := by
  induction cs generalizing as with
  | nil =>
    have hlength := congrArg List.length h
    simp [encode] at hlength
  | cons c cs ih =>
    rw [encode_cons, List.append_eq_append_iff] at h
    -- The byte belongs to the rest of the text, or else to its first character.
    have hcases : (∃ as', as = String.utf8EncodeChar c ++ as' ∧ encode cs = as' ++ b :: bs) ∨
        ∃ behind, String.utf8EncodeChar c = as ++ b :: behind ∧ bs = behind ++ encode cs := by
      rcases h with ⟨as', has, hcs⟩ | ⟨behind, hc, hbs⟩
      · exact .inl ⟨as', has, hcs⟩
      · cases behind with
        | nil => exact .inl ⟨[], by simp [hc], by simpa using hbs.symm⟩
        | cons x behind =>
          obtain ⟨rfl, rfl⟩ := List.cons.inj hbs
          exact .inr ⟨behind, hc, rfl⟩
    rcases hcases with ⟨as', rfl, hcs⟩ | ⟨behind, hc, rfl⟩
    · obtain ⟨s, t, rfl, rfl, rfl⟩ := ih hcs
      exact ⟨c :: s, t, rfl, rfl, rfl⟩
    · have hcode : c.toNat = b.toNat := by
        apply toNat_eq_of_mem_encodeChar _ hb
        rw [hc]
        simp
      have hone : as ++ b :: behind = [b] := by
        rw [← hc, encodeChar_one (by omega), hcode, UInt8.ofNat_toNat]
      obtain ⟨rfl, rfl⟩ : as = [] ∧ behind = [] := by
        have hlength := congrArg List.length hone
        simp only [List.length_append, List.length_cons, List.length_nil] at hlength
        exact ⟨List.length_eq_zero_iff.1 (by omega), List.length_eq_zero_iff.1 (by omega)⟩
      refine ⟨[], cs, ?_, rfl, rfl⟩
      rw [← hcode, Char.ofNat_toNat]
      rfl

theorem exists_of_encode_eq_cons {cs : List Char} {bs : List UInt8} {b : UInt8}
    (hb : b.toNat < 0x80) (h : encode cs = b :: bs) :
    ∃ t, cs = Char.ofNat b.toNat :: t ∧ encode t = bs := by
  have hfront : encode cs = [] ++ b :: bs := h
  obtain ⟨s, t, rfl, hs, ht⟩ := exists_of_encode_eq_append_cons hb hfront
  obtain rfl : s = [] := encode_inj.1 hs
  exact ⟨t, rfl, ht⟩

end Hotplug.Utf8
