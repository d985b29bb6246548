import Hotplug.Proofs.Text.Utf8
/-!
# Bytes that are text

Strict decoding takes the encoding of a text and nothing else (`decode?_eq_some_iff`). A first byte
says how many bytes follow and bounds the next one, so that a completed character has no shorter
encoding and is no surrogate.
-/

namespace Hotplug.Utf8

/-- The text of the bytes that follow when `st` is under way, if all of them are well-formed. -/
def decodeFrom? (st : Option Pending) (bs : List UInt8) : Option (List Char) :=
  (pieces st bs).mapM id

theorem mapM_id_none_cons (ps : List Piece) : (none :: ps).mapM id = none := by
  rw [List.mapM_cons]
  rfl

theorem mapM_id_some_cons {c : Char} {ps : List Piece} {cs : List Char} :
    (some c :: ps).mapM id = some cs ↔ ∃ ds, ps.mapM id = some ds ∧ cs = c :: ds := by
  rw [List.mapM_cons]
  cases ps.mapM id <;> simp [eq_comm]

theorem tail_mul_add (m n : Nat) : tail (m * 64 + n) = tail n := by
  rw [tail, Nat.mul_add_mod_self_right, ← tail]

section Pending

variable {bits missing : Nat} {low high : UInt8} {bs : List UInt8} {cs : List Char}

theorem exists_tail_of_decodeFrom? (hlow : 0x80 ≤ low.toNat) (hhigh : high.toNat ≤ 0xBF)
    (h : decodeFrom? (some ⟨bits, missing, low, high⟩) bs = some cs) :
    ∃ k rest, bs = tail k :: rest ∧ k < 64 ∧ low.toNat ≤ k + 128 ∧ k + 128 ≤ high.toNat := by
  cases bs with
  | nil => simp [decodeFrom?, pieces] at h
  | cons b rest =>
    by_cases hb : low ≤ b ∧ b ≤ high
    · have hle : low.toNat ≤ b.toNat ∧ b.toNat ≤ high.toNat := by
        rwa [UInt8.le_iff_toNat_le, UInt8.le_iff_toNat_le] at hb
      have htail : b = tail (b.toNat - 128) := by
        rw [← UInt8.toNat_inj, toNat_tail]
        omega
      exact ⟨b.toNat - 128, rest, by rw [← htail], by omega, by omega, by omega⟩
    · rw [decodeFrom?, pieces, feed, if_neg hb, List.cons_append, mapM_id_none_cons] at h
      contradiction

theorem decodeFrom?_last (hlow : 0x80 ≤ low.toNat) (hhigh : high.toNat ≤ 0xBF)
    (h : decodeFrom? (some ⟨bits, 1, low, high⟩) bs = some cs) :
    ∃ k rest ds, bs = tail k :: rest ∧ k < 64 ∧ low.toNat ≤ k + 128 ∧ k + 128 ≤ high.toNat ∧
      cs = Char.ofNat (bits * 64 + k) :: ds ∧ decodeFrom? none rest = some ds := by
  obtain ⟨k, rest, rfl, hk, hkl, hkh⟩ := exists_tail_of_decodeFrom? hlow hhigh h
  have hmod : k % 64 = k := Nat.mod_eq_of_lt hk
  rw [decodeFrom?, pieces, feed_tail_last (by omega) (by omega), hmod, List.singleton_append,
    mapM_id_some_cons] at h
  obtain ⟨ds, hds, rfl⟩ := h
  exact ⟨k, rest, ds, rfl, hk, hkl, hkh, rfl, hds⟩

theorem decodeFrom?_more (hlow : 0x80 ≤ low.toNat) (hhigh : high.toNat ≤ 0xBF)
    (h : decodeFrom? (some ⟨bits, missing + 2, low, high⟩) bs = some cs) :
    ∃ k rest, bs = tail k :: rest ∧ k < 64 ∧ low.toNat ≤ k + 128 ∧ k + 128 ≤ high.toNat ∧
      decodeFrom? (some ⟨bits * 64 + k, missing + 1, 0x80, 0xBF⟩) rest = some cs := by
  obtain ⟨k, rest, rfl, hk, hkl, hkh⟩ := exists_tail_of_decodeFrom? hlow hhigh h
  have hmod : k % 64 = k := Nat.mod_eq_of_lt hk
  rw [decodeFrom?, pieces, feed_tail_more (by omega) (by omega), hmod, List.nil_append] at h
  exact ⟨k, rest, rfl, hk, hkl, hkh, h⟩

end Pending

theorem start_stray {n : Nat} (h : n < 66) : start (UInt8.ofNat (n + 128)) = ([none], none) := by
  have hall : ∀ n < 66, start (UInt8.ofNat (n + 128)) = ([none], none) := by decide
  exact hall n h

theorem start_beyond {n : Nat} (h : n < 11) : start (UInt8.ofNat (n + 245)) = ([none], none) := by
  have hall : ∀ n < 11, start (UInt8.ofNat (n + 245)) = ([none], none) := by decide
  exact hall n h

theorem start_cases (b : UInt8) :
    (∃ n < 0x80, b = UInt8.ofNat n) ∨ start b = ([none], none) ∨
      (∃ n < 32, 2 ≤ n ∧ b = UInt8.ofNat (n + 192)) ∨ (∃ n < 16, b = UInt8.ofNat (n + 224)) ∨
      ∃ n < 5, b = UInt8.ofNat (n + 240) := by
  have hoffset (m : Nat) (hm : m ≤ b.toNat) : b = UInt8.ofNat (b.toNat - m + m) := by
    rw [Nat.sub_add_cancel hm, UInt8.ofNat_toNat]
  have hlt : b.toNat < 256 := b.toNat_lt
  by_cases h1 : b.toNat < 128
  · exact .inl ⟨b.toNat, h1, by rw [UInt8.ofNat_toNat]⟩
  by_cases h2 : b.toNat < 194
  · rw [hoffset 128 (by omega)]
    exact .inr (.inl (start_stray (by omega)))
  by_cases h3 : b.toNat < 224
  · exact .inr (.inr (.inl ⟨b.toNat - 192, by omega, by omega, hoffset 192 (by omega)⟩))
  by_cases h4 : b.toNat < 240
  · exact .inr (.inr (.inr (.inl ⟨b.toNat - 224, by omega, hoffset 224 (by omega)⟩)))
  by_cases h5 : b.toNat < 245
  · exact .inr (.inr (.inr (.inr ⟨b.toNat - 240, by omega, hoffset 240 (by omega)⟩)))
  · rw [hoffset 245 (by omega)]
    exact .inr (.inl (start_beyond (by omega)))

theorem toNat_ofNat {n : Nat} (h : n < 0xD800 ∨ 0xDFFF < n ∧ n < 0x110000) :
    (Char.ofNat n).toNat = n := by
  rw [Char.ofNat, dif_pos h]
  rfl

/-- The bytes are those of a character and further ones, and the text is the character and theirs. -/
def BeginsWith (bs : List UInt8) (cs : List Char) : Prop :=
  ∃ c rest ds, bs = String.utf8EncodeChar c ++ rest ∧ cs = c :: ds ∧ decode? rest = some ds

section BeginsWith

variable {n : Nat} {bs : List UInt8} {cs : List Char}

theorem beginsWith_one (hn : n < 0x80) (h : decode? (UInt8.ofNat n :: bs) = some cs) :
    BeginsWith (UInt8.ofNat n :: bs) cs := by
  rw [decode?, pieces_one bs hn, mapM_id_some_cons] at h
  obtain ⟨ds, hds, rfl⟩ := h
  have hc : (Char.ofNat n).toNat = n := toNat_ofNat (by omega)
  refine ⟨_, bs, ds, ?_, rfl, hds⟩
  rw [encodeChar_one (by omega), hc]
  rfl

theorem beginsWith_two (hlow : 2 ≤ n) (hhigh : n < 32)
    (h : decode? (UInt8.ofNat (n + 192) :: bs) = some cs) :
    BeginsWith (UInt8.ofNat (n + 192) :: bs) cs := by
  rw [decode?, pieces, feed, start_two hlow hhigh, List.nil_append, ← decodeFrom?] at h
  obtain ⟨k, rest, ds, rfl, hk, -, -, rfl, hds⟩ := decodeFrom?_last (by decide) (by decide) h
  have hc : (Char.ofNat (n * 64 + k)).toNat = n * 64 + k := toNat_ofNat (by omega)
  have hlead : (n * 64 + k) / 64 = n := by omega
  refine ⟨_, rest, ds, ?_, rfl, hds⟩
  rw [encodeChar_two (by omega) (by omega), hc, hlead, tail_mul_add]
  rfl

theorem beginsWith_three (hn : n < 16) (h : decode? (UInt8.ofNat (n + 224) :: bs) = some cs) :
    BeginsWith (UInt8.ofNat (n + 224) :: bs) cs := by
  rw [decode?, pieces, feed, start_three hn, List.nil_append, ← decodeFrom?] at h
  obtain ⟨j, rest, rfl, hj, hjlow, hjhigh, h⟩ :=
    decodeFrom?_more (by split <;> decide) (by split <;> decide) h
  obtain ⟨k, rest, ds, rfl, hk, -, -, rfl, hds⟩ := decodeFrom?_last (by decide) (by decide) h
  -- The range of the second byte leaves no number below `0x800` and no surrogate.
  have hlow : 32 ≤ n * 64 + j := by
    by_cases h0 : n = 0
    · rw [if_pos h0, show (0xA0 : UInt8).toNat = 160 from rfl] at hjlow
      omega
    · omega
  have hsurrogate : n * 64 + j < 864 ∨ 895 < n * 64 + j := by
    by_cases h13 : n = 13
    · rw [if_pos h13, show (0x9F : UInt8).toNat = 159 from rfl] at hjhigh
      omega
    · omega
  have hc : (Char.ofNat ((n * 64 + j) * 64 + k)).toNat = (n * 64 + j) * 64 + k :=
    toNat_ofNat (by omega)
  have hlead : ((n * 64 + j) * 64 + k) / 4096 = n := by omega
  have hmiddle : ((n * 64 + j) * 64 + k) / 64 = n * 64 + j := by omega
  refine ⟨_, rest, ds, ?_, rfl, hds⟩
  rw [encodeChar_three (by omega) (by omega), hc, hlead, hmiddle, tail_mul_add, tail_mul_add]
  rfl

theorem beginsWith_four (hn : n < 5) (h : decode? (UInt8.ofNat (n + 240) :: bs) = some cs) :
    BeginsWith (UInt8.ofNat (n + 240) :: bs) cs := by
  rw [decode?, pieces, feed, start_four hn, List.nil_append, ← decodeFrom?] at h
  obtain ⟨i, rest, rfl, hi, hilow, hihigh, h⟩ :=
    decodeFrom?_more (by split <;> decide) (by split <;> decide) h
  obtain ⟨j, rest, rfl, hj, -, -, h⟩ := decodeFrom?_more (by decide) (by decide) h
  obtain ⟨k, rest, ds, rfl, hk, -, -, rfl, hds⟩ := decodeFrom?_last (by decide) (by decide) h
  have hlow : 16 ≤ n * 64 + i := by
    by_cases h0 : n = 0
    · rw [if_pos h0, show (0x90 : UInt8).toNat = 144 from rfl] at hilow
      omega
    · omega
  have hhigh : n * 64 + i < 272 := by
    by_cases h4 : n = 4
    · rw [if_pos h4, show (0x8F : UInt8).toNat = 143 from rfl] at hihigh
      omega
    · omega
  have hc : (Char.ofNat (((n * 64 + i) * 64 + j) * 64 + k)).toNat =
      ((n * 64 + i) * 64 + j) * 64 + k := toNat_ofNat (by omega)
  have hlead : (((n * 64 + i) * 64 + j) * 64 + k) / 262144 = n := by omega
  have hsecond : (((n * 64 + i) * 64 + j) * 64 + k) / 4096 = n * 64 + i := by omega
  have hthird : (((n * 64 + i) * 64 + j) * 64 + k) / 64 = (n * 64 + i) * 64 + j := by omega
  refine ⟨_, rest, ds, ?_, rfl, hds⟩
  rw [encodeChar_four (by omega), hc, hlead, hsecond, hthird, tail_mul_add, tail_mul_add,
    tail_mul_add]
  rfl

end BeginsWith

theorem beginsWith_of_decode? {b : UInt8} {bs : List UInt8} {cs : List Char}
    (h : decode? (b :: bs) = some cs) : BeginsWith (b :: bs) cs := by
  rcases start_cases b with
    ⟨n, hn, rfl⟩ | hill | ⟨n, hhigh, hlow, rfl⟩ | ⟨n, hn, rfl⟩ | ⟨n, hn, rfl⟩
  · exact beginsWith_one hn h
  · rw [decode?, pieces, feed, hill, List.singleton_append, mapM_id_none_cons] at h
    contradiction
  · exact beginsWith_two hlow hhigh h
  · exact beginsWith_three hn h
  · exact beginsWith_four hn h

/-- The bytes of a text are the only ones that are read as it. -/
theorem decode?_eq_some_iff {bs : List UInt8} {cs : List Char} :
    decode? bs = some cs ↔ encode cs = bs := by
  constructor
  · intro h
    induction cs generalizing bs with
    | nil =>
      cases bs with
      | nil => rfl
      | cons b bs =>
        obtain ⟨c, rest, ds, -, hcs, -⟩ := beginsWith_of_decode? h
        contradiction
    | cons c cs ih =>
      cases bs with
      | nil =>
        have hnil : decode? [] = some [] := rfl
        simp [hnil] at h
      | cons b bs =>
        obtain ⟨_, rest, ds, hbs, hcs, hds⟩ := beginsWith_of_decode? h
        obtain ⟨rfl, rfl⟩ := List.cons.inj hcs
        rw [hbs, encode_cons, ih hds]
  · rintro rfl
    rw [decode?, pieces_encode]
    induction cs with
    | nil => rfl
    | cons c cs ih => exact mapM_id_some_cons.2 ⟨cs, ih, rfl⟩

theorem toString?_eq_some_iff {bs : List UInt8} {s : String} :
    toString? bs = some s ↔ ofString s = bs := by
  rw [toString?, Option.map_eq_some_iff, ofString]
  constructor
  · rintro ⟨cs, hcs, rfl⟩
    rw [String.toList_ofList]
    exact decode?_eq_some_iff.1 hcs
  · intro h
    exact ⟨s.toList, decode?_eq_some_iff.2 h, String.ofList_toList⟩

end Hotplug.Utf8
