import Hotplug.Text.Utf8
/-!
# Decoding what has been encoded

The decoder passes over the bytes of a character and completes that character with the last of them
(`pieces_encodeChar`), so both ways back give a text from its bytes. Bytes that are there always give
some text, well-formed or not.
-/

namespace Hotplug.Utf8

/-- A byte behind the first one of a character, with the low six bits of a number. -/
def tail (n : Nat) : UInt8 :=
  UInt8.ofNat (n % 64 + 128)

theorem toNat_tail (n : Nat) : (tail n).toNat = n % 64 + 128 :=
  UInt8.toNat_ofNat_of_lt' (show n % 64 + 128 < 256 by omega)

section Tail

variable {bits missing n : Nat} {low high : UInt8}

theorem tail_bounds (hlow : low.toNat ≤ n % 64 + 128) (hhigh : n % 64 + 128 ≤ high.toNat) :
    low ≤ tail n ∧ tail n ≤ high := by
  rw [UInt8.le_iff_toNat_le, UInt8.le_iff_toNat_le, toNat_tail]
  exact ⟨hlow, hhigh⟩

theorem feed_tail_last (hlow : low.toNat ≤ n % 64 + 128) (hhigh : n % 64 + 128 ≤ high.toNat) :
    feed (some ⟨bits, 1, low, high⟩) (tail n) =
      ([some (Char.ofNat (bits * 64 + n % 64))], none) := by
  rw [feed, if_pos (tail_bounds hlow hhigh), toNat_tail, Nat.add_sub_cancel]
  rfl

theorem feed_tail_more (hlow : low.toNat ≤ n % 64 + 128) (hhigh : n % 64 + 128 ≤ high.toNat) :
    feed (some ⟨bits, missing + 2, low, high⟩) (tail n) =
      ([], some ⟨bits * 64 + n % 64, missing + 1, 0x80, 0xBF⟩) := by
  rw [feed, if_pos (tail_bounds hlow hhigh), toNat_tail, Nat.add_sub_cancel]
  rfl

end Tail

/-! The first byte of a sequence leaves it with the bits of the character so far, and with the range
of the byte behind it. -/

theorem start_two {n : Nat} (hlow : 2 ≤ n) (hhigh : n < 32) :
    start (UInt8.ofNat (n + 192)) = ([], some ⟨n, 1, 0x80, 0xBF⟩) := by
  have hall : ∀ n < 32, 2 ≤ n →
      start (UInt8.ofNat (n + 192)) = ([], some ⟨n, 1, 0x80, 0xBF⟩) := by decide
  exact hall n hhigh hlow

theorem start_three {n : Nat} (h : n < 16) :
    start (UInt8.ofNat (n + 224)) =
      ([], some ⟨n, 2, if n = 0 then 0xA0 else 0x80, if n = 13 then 0x9F else 0xBF⟩) := by
  have hall : ∀ n < 16, start (UInt8.ofNat (n + 224)) =
      ([], some ⟨n, 2, if n = 0 then 0xA0 else 0x80, if n = 13 then 0x9F else 0xBF⟩) := by decide
  exact hall n h

theorem start_four {n : Nat} (h : n < 5) :
    start (UInt8.ofNat (n + 240)) =
      ([], some ⟨n, 3, if n = 0 then 0x90 else 0x80, if n = 4 then 0x8F else 0xBF⟩) := by
  have hall : ∀ n < 5, start (UInt8.ofNat (n + 240)) =
      ([], some ⟨n, 3, if n = 0 then 0x90 else 0x80, if n = 4 then 0x8F else 0xBF⟩) := by decide
  exact hall n h

section Pieces

variable (bs : List UInt8) {n : Nat}

theorem pieces_one (h : n < 0x80) :
    pieces none (UInt8.ofNat n :: bs) = some (Char.ofNat n) :: pieces none bs := by
  have hn : (UInt8.ofNat n).toNat = n := UInt8.toNat_ofNat_of_lt' (show n < 256 by omega)
  have hlt : UInt8.ofNat n < 0x80 := by
    rw [UInt8.lt_iff_toNat_lt, hn]
    exact h
  rw [pieces, feed, start, if_pos hlt, hn]
  rfl

theorem pieces_two (hlow : 0x80 ≤ n) (hhigh : n < 0x800) :
    pieces none (UInt8.ofNat (n / 64 + 192) :: tail n :: bs) =
      some (Char.ofNat n) :: pieces none bs := by
  have hstart := start_two (n := n / 64) (by omega) (by omega)
  have hvalue : n / 64 * 64 + n % 64 = n := by omega
  rw [pieces, feed, hstart, pieces, feed_tail_last (by simp) (by simp; omega), hvalue]
  rfl

theorem pieces_three (hlow : 0x800 ≤ n) (hhigh : n < 0x10000)
    (hvalid : n < 0xD800 ∨ 0xDFFF < n) :
    pieces none (UInt8.ofNat (n / 4096 + 224) :: tail (n / 64) :: tail n :: bs) =
      some (Char.ofNat n) :: pieces none bs := by
  have hstart := start_three (n := n / 4096) (by omega)
  have hvalue : (n / 4096 * 64 + n / 64 % 64) * 64 + n % 64 = n := by omega
  -- The narrowed ranges are those of `n` itself: it is above `0x800` and no surrogate.
  have hfirst : (if n / 4096 = 0 then 0xA0 else 0x80 : UInt8).toNat ≤ n / 64 % 64 + 128 := by
    split
    · simp
      omega
    · simp
  have hlast : n / 64 % 64 + 128 ≤ (if n / 4096 = 13 then 0x9F else 0xBF : UInt8).toNat := by
    split <;> (simp; omega)
  rw [pieces, feed, hstart, pieces, feed_tail_more hfirst hlast, pieces,
    feed_tail_last (by simp) (by simp; omega), hvalue]
  rfl

theorem pieces_four (hlow : 0x10000 ≤ n) (hhigh : n < 0x110000) :
    pieces none
        (UInt8.ofNat (n / 262144 + 240) :: tail (n / 4096) :: tail (n / 64) :: tail n :: bs) =
      some (Char.ofNat n) :: pieces none bs := by
  have hstart := start_four (n := n / 262144) (by omega)
  have hvalue : ((n / 262144 * 64 + n / 4096 % 64) * 64 + n / 64 % 64) * 64 + n % 64 = n := by
    omega
  have hfirst : (if n / 262144 = 0 then 0x90 else 0x80 : UInt8).toNat ≤ n / 4096 % 64 + 128 := by
    split
    · simp
      omega
    · simp
  have hlast : n / 4096 % 64 + 128 ≤ (if n / 262144 = 4 then 0x8F else 0xBF : UInt8).toNat := by
    split <;> (simp; omega)
  rw [pieces, feed, hstart, pieces, feed_tail_more hfirst hlast, pieces,
    feed_tail_more (by simp) (by simp; omega), pieces, feed_tail_last (by simp) (by simp; omega),
    hvalue]
  rfl

end Pieces

/-! The bytes of a character, by its number. -/

section Character

variable {c : Char}

theorem encodeChar_one (h : c.toNat < 0x80) :
    String.utf8EncodeChar c = [UInt8.ofNat c.toNat] := by
  have hval : c.val.toNat = c.toNat := rfl
  rw [String.utf8EncodeChar, hval]
  exact if_pos (by omega)

theorem encodeChar_two (hlow : 0x80 ≤ c.toNat) (hhigh : c.toNat < 0x800) :
    String.utf8EncodeChar c = [UInt8.ofNat (c.toNat / 64 + 192), tail c.toNat] := by
  have hval : c.val.toNat = c.toNat := rfl
  have hlead : c.toNat / 64 % 32 = c.toNat / 64 := Nat.mod_eq_of_lt (by omega)
  simp only [String.utf8EncodeChar, hval]
  rw [if_neg (by omega), if_pos (by omega), hlead]
  rfl

theorem encodeChar_three (hlow : 0x800 ≤ c.toNat) (hhigh : c.toNat < 0x10000) :
    String.utf8EncodeChar c =
      [UInt8.ofNat (c.toNat / 4096 + 224), tail (c.toNat / 64), tail c.toNat] := by
  have hval : c.val.toNat = c.toNat := rfl
  have hlead : c.toNat / 4096 % 16 = c.toNat / 4096 := Nat.mod_eq_of_lt (by omega)
  simp only [String.utf8EncodeChar, hval]
  rw [if_neg (by omega), if_neg (by omega), if_pos (by omega), hlead]
  rfl

theorem encodeChar_four (hlow : 0x10000 ≤ c.toNat) :
    String.utf8EncodeChar c = [UInt8.ofNat (c.toNat / 262144 + 240), tail (c.toNat / 4096),
      tail (c.toNat / 64), tail c.toNat] := by
  have hval : c.val.toNat = c.toNat := rfl
  have hhigh : c.toNat < 0x110000 := by
    have hvalid : c.toNat < 0xD800 ∨ 0xDFFF < c.toNat ∧ c.toNat < 0x110000 := c.valid
    omega
  have hlead : c.toNat / 262144 % 8 = c.toNat / 262144 := Nat.mod_eq_of_lt (by omega)
  simp only [String.utf8EncodeChar, hval]
  rw [if_neg (by omega), if_neg (by omega), if_neg (by omega), hlead]
  rfl

end Character

theorem pieces_encodeChar (c : Char) (bs : List UInt8) :
    pieces none (String.utf8EncodeChar c ++ bs) = some c :: pieces none bs := by
  have hvalid : c.toNat < 0xD800 ∨ 0xDFFF < c.toNat ∧ c.toNat < 0x110000 := c.valid
  have hc : Char.ofNat c.toNat = c := Char.ofNat_toNat c
  by_cases h1 : c.toNat < 0x80
  · rw [encodeChar_one h1]
    have hpieces := pieces_one bs h1
    rwa [hc] at hpieces
  by_cases h2 : c.toNat < 0x800
  · rw [encodeChar_two (by omega) h2]
    have hpieces := pieces_two bs (show 0x80 ≤ c.toNat by omega) h2
    rwa [hc] at hpieces
  by_cases h3 : c.toNat < 0x10000
  · rw [encodeChar_three (by omega) h3]
    have hpieces := pieces_three bs (show 0x800 ≤ c.toNat by omega) h3 (by omega)
    rwa [hc] at hpieces
  · rw [encodeChar_four (by omega)]
    have hpieces := pieces_four bs (show 0x10000 ≤ c.toNat by omega) (by omega)
    rwa [hc] at hpieces

/-- A byte below `0x80` stands for the character with its number: the bytes of a longer character
are all above. -/
theorem toNat_eq_of_mem_encodeChar {c : Char} {b : UInt8} (hmem : b ∈ String.utf8EncodeChar c)
    (hb : b.toNat < 0x80) : c.toNat = b.toNat := by
  have hval : c.val.toNat = c.toNat := rfl
  rw [String.utf8EncodeChar, hval] at hmem
  split at hmem
  next =>
    rw [List.mem_singleton.1 hmem, UInt8.toNat_ofNat_of_lt' (show c.toNat < 256 by omega)]
  split at hmem
  next =>
    simp only [List.mem_cons, List.not_mem_nil, or_false] at hmem
    rcases hmem with rfl | rfl <;> rw [UInt8.toNat_ofNat'] at hb <;> omega
  split at hmem
  next =>
    simp only [List.mem_cons, List.not_mem_nil, or_false] at hmem
    rcases hmem with rfl | rfl | rfl <;> rw [UInt8.toNat_ofNat'] at hb <;> omega
  next =>
    simp only [List.mem_cons, List.not_mem_nil, or_false] at hmem
    rcases hmem with rfl | rfl | rfl | rfl <;> rw [UInt8.toNat_ofNat'] at hb <;> omega

/-! ## Texts -/

theorem encode_cons (c : Char) (s : List Char) :
    encode (c :: s) = String.utf8EncodeChar c ++ encode s :=
  rfl

theorem encode_append (s t : List Char) : encode (s ++ t) = encode s ++ encode t :=
  List.flatMap_append

theorem pieces_encode (s : List Char) : pieces none (encode s) = s.map some := by
  induction s with
  | nil => rfl
  | cons c s ih => rw [encode_cons, pieces_encodeChar, ih, List.map_cons]

@[simp] theorem decodeLossy_encode (s : List Char) : decodeLossy (encode s) = s := by
  rw [decodeLossy, pieces_encode, List.map_map]
  exact List.map_id s

theorem encode_inj {s t : List Char} : encode s = encode t ↔ s = t := by
  constructor
  · intro h
    rw [← decodeLossy_encode s, h, decodeLossy_encode]
  · rintro rfl
    rfl

@[simp] theorem toStringLossy_ofString (s : String) : toStringLossy (ofString s) = s := by
  rw [toStringLossy, ofString, decodeLossy_encode, String.ofList_toList]

theorem start_ne (b : UInt8) : start b ≠ ([], none) := by
  unfold start
  repeat' split
  all_goals simp

theorem feed_ne (st : Option Pending) (b : UInt8) : feed st b ≠ ([], none) := by
  cases st with
  | none => exact start_ne b
  | some p =>
    rw [feed]
    split
    · dsimp only
      split <;> simp
    · simp

theorem pieces_ne_nil {st : Option Pending} {bs : List UInt8} (h : bs ≠ [] ∨ st ≠ none) :
    pieces st bs ≠ [] := by
  induction bs generalizing st with
  | nil =>
    cases st with
    | none => simp at h
    | some p => simp [pieces]
  | cons b bs ih =>
    rw [pieces]
    intro hnil
    obtain ⟨hpieces, hrest⟩ := List.append_eq_nil_iff.1 hnil
    have hstate : (feed st b).2 ≠ none := fun hnone => feed_ne st b (Prod.ext hpieces hnone)
    exact ih (.inr hstate) hrest

theorem decodeLossy_ne_nil {bs : List UInt8} (h : bs ≠ []) : decodeLossy bs ≠ [] := by
  rw [decodeLossy, ne_eq, List.map_eq_nil_iff]
  exact pieces_ne_nil (.inl h)

theorem encode_ne_nil {s : List Char} (h : s ≠ []) : encode s ≠ [] := by
  cases s with
  | nil => contradiction
  | cons c s => simp [encode_cons, String.utf8EncodeChar_ne_nil]

end Hotplug.Utf8
