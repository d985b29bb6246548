import Hotplug.Proofs.Text.Utf8
import Hotplug.Text.Escape
import Mathlib.Data.List.Forall2
/-!
# Written texts

A text is written one character at a time, either as it stands or as an escape for each of its
bytes. Which characters are escaped is chosen for each of them anew, and so is the escape of a byte
that has several. A reader undoes the escapes if it takes each of them for its byte, and any byte
that is no backslash for itself. It then gets the text back, whatever was chosen
(`Undoes.decodeLossy_read`), as long as no backslash stands unescaped.
-/

namespace Hotplug.Escape

open Utf8 (encode encode_cons encode_append)

/-- The second text is the first one with its marked characters escaped. -/
inductive Writing (IsEscape : UInt8 → List Char → Prop) : List (Char × Bool) → List Char → Prop where
  | nil : Writing IsEscape [] []
  | raw {c : Char} {s : List (Char × Bool)} {w : List Char} (h : Writing IsEscape s w) :
    Writing IsEscape ((c, false) :: s) (c :: w)
  | escaped {c : Char} {es : List (List Char)} {s : List (Char × Bool)} {w : List Char}
    (hes : List.Forall₂ IsEscape (String.utf8EncodeChar c) es) (h : Writing IsEscape s w) :
    Writing IsEscape ((c, true) :: s) (es.flatten ++ w)

/-- A way of reading bytes that takes each escape for its byte, whatever follows. -/
structure Undoes (read : List UInt8 → List UInt8) (IsEscape : UInt8 → List Char → Prop) : Prop where
  nil : read [] = []
  raw {b : UInt8} (hb : b ≠ backslash) (bs : List UInt8) : read (b :: bs) = b :: read bs
  escape {b : UInt8} {e : List Char} (he : IsEscape b e) (bs : List UInt8) :
    read (encode e ++ bs) = b :: read bs

theorem backslash_not_mem_encodeChar {c : Char} (h : c ≠ '\\') :
    backslash ∉ String.utf8EncodeChar c := by
  intro hmem
  have hcode : c.toNat = 0x5C := Utf8.toNat_eq_of_mem_encodeChar hmem (by decide)
  exact h (Char.toNat_inj.1 hcode)

section Reading

variable {read : List UInt8 → List UInt8} {IsEscape : UInt8 → List Char → Prop}

theorem Undoes.read_append_of_not_mem (h : Undoes read IsEscape) {as : List UInt8}
    (has : backslash ∉ as) (bs : List UInt8) : read (as ++ bs) = as ++ read bs := by
  induction as with
  | nil => rfl
  | cons a as ih =>
    rw [List.mem_cons, not_or] at has
    rw [List.cons_append, h.raw (Ne.symm has.1), ih has.2, List.cons_append]

theorem Undoes.read_escapes (h : Undoes read IsEscape) {as : List UInt8} {es : List (List Char)}
    (hes : List.Forall₂ IsEscape as es) (bs : List UInt8) :
    read (encode es.flatten ++ bs) = as ++ read bs := by
  induction hes with
  | nil => rfl
  | cons he _ ih =>
    rw [List.flatten_cons, encode_append, List.append_assoc, h.escape he, ih, List.cons_append]

theorem Undoes.read_encode (h : Undoes read IsEscape) {s : List (Char × Bool)} {w : List Char}
    (hs : ∀ x ∈ s, x.1 = '\\' → x.2 = true) (hw : Writing IsEscape s w) :
    read (encode w) = encode (s.map Prod.fst) := by
  induction hw with
  | nil => exact h.nil
  | @raw c s w _ ih =>
    obtain ⟨hc, hs⟩ := List.forall_mem_cons.1 hs
    -- Not marked, so no backslash: none of its bytes begins an escape.
    have hraw : c ≠ '\\' := fun hc' => Bool.false_ne_true (hc hc')
    rw [encode_cons, h.read_append_of_not_mem (backslash_not_mem_encodeChar hraw), ih hs,
      List.map_cons, encode_cons]
  | @escaped c es s w hes _ ih =>
    obtain ⟨-, hs⟩ := List.forall_mem_cons.1 hs
    rw [encode_append, h.read_escapes hes, ih hs, List.map_cons, encode_cons]

theorem Undoes.decodeLossy_read (h : Undoes read IsEscape) {s : List (Char × Bool)}
    {w : List Char} (hs : ∀ x ∈ s, x.1 = '\\' → x.2 = true) (hw : Writing IsEscape s w) :
    Utf8.decodeLossy (read (encode w)) = s.map Prod.fst := by
  rw [h.read_encode hs hw, Utf8.decodeLossy_encode]

theorem Undoes.decodeLossy_read_of_mem (h : Undoes read IsEscape) {escaped s w : List Char}
    (hescaped : '\\' ∈ escaped) (hw : Writing IsEscape (s.map fun c => (c, escaped.contains c)) w) :
    Utf8.decodeLossy (read (encode w)) = s := by
  have hmarks : ∀ x ∈ s.map fun c => (c, escaped.contains c), x.1 = '\\' → x.2 = true := by
    intro x hx hc
    obtain ⟨c, -, rfl⟩ := List.mem_map.1 hx
    have hc : c = '\\' := hc
    simpa [hc] using hescaped
  rw [h.decodeLossy_read hmarks hw, List.map_map]
  exact List.map_id s

end Reading

theorem writing_flatMap {IsEscape : UInt8 → List Char → Prop} {escape : UInt8 → List Char}
    (h : ∀ b, IsEscape b (escape b)) (s : List (Char × Bool)) :
    Writing IsEscape s
      (s.flatMap fun x => if x.2 then (String.utf8EncodeChar x.1).flatMap escape else [x.1]) := by
  induction s with
  | nil => exact .nil
  | cons x s ih =>
    obtain ⟨c, mark⟩ := x
    cases mark with
    | false => exact .raw ih
    | true =>
      have hes (bs : List UInt8) : List.Forall₂ IsEscape bs (bs.map escape) :=
        List.forall₂_map_right_iff.2 (List.forall₂_same.2 fun b _ => h b)
      exact .escaped (hes _) ih

end Hotplug.Escape
