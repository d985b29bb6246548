import Hotplug.Proofs.Text.Boundary
import Hotplug.Text.Escape
import Hotplug.Text.Number
/-!
# Undoing escapes by counting bytes

The escapes of a text can be undone by going through its bytes with a number that says where one is.
Every look at a byte, every range, every cut of the text and every sum is then a step that may miss.
`scanOctal` and `scanHex` stop at the first misstep. They meet none, and give what `octal` and `hex`
give (`scanOctal_eq`, `scanHex_eq`).
-/

namespace Hotplug

@[simp] theorem ok_bind {ε α β : Type} (a : α) (f : α → Except ε β) : Except.ok a >>= f = f a :=
  rfl

namespace Escape

open Utf8 (encode)

inductive Misstep where
  /-- An index or a range outside the bytes. -/
  | beyondEnd
  /-- A cut that is not between two characters. -/
  | insideCharacter
  /-- A result that is no byte. -/
  | overflow
deriving DecidableEq, Repr

def byteAt (bs : List UInt8) (i : Nat) : Except Misstep UInt8 :=
  match bs[i]? with
  | some b => .ok b
  | none => .error .beyondEnd

def range? (bs : List UInt8) (first behind : Nat) : Option (List UInt8) :=
  if first ≤ behind ∧ behind ≤ bs.length then some ((bs.take behind).drop first) else none

def range (bs : List UInt8) (first behind : Nat) : Except Misstep (List UInt8) :=
  match range? bs first behind with
  | some r => .ok r
  | none => .error .beyondEnd

def textRange (s : List Char) (first behind : Nat) : Except Misstep (List Char) :=
  match (Utf8.cutAt? behind s).bind fun p => Utf8.cutAt? first p.1 with
  | some (_, middle) => .ok middle
  | none => .error .insideCharacter

def byte (n : Nat) : Except Misstep UInt8 :=
  if n < 256 then .ok (UInt8.ofNat n) else .error .overflow

def add (a b : UInt8) : Except Misstep UInt8 :=
  byte (a.toNat + b.toNat)

def mul (a b : UInt8) : Except Misstep UInt8 :=
  byte (a.toNat * b.toNat)

def sub (a b : UInt8) : Except Misstep UInt8 :=
  if b ≤ a then .ok (a - b) else .error .overflow

section Place

variable (seen ahead : List UInt8) (k l : Nat)

theorem byteAt_append : byteAt (seen ++ ahead) (seen.length + k) = byteAt ahead k := by
  rw [byteAt, List.getElem?_append_right (Nat.le_add_right _ _), Nat.add_sub_cancel_left, ← byteAt]

theorem range?_append :
    range? (seen ++ ahead) (seen.length + k) (seen.length + l) = range? ahead k l := by
  have hwithin : seen.length + k ≤ seen.length + l ∧ seen.length + l ≤ (seen ++ ahead).length ↔
      k ≤ l ∧ l ≤ ahead.length := by
    rw [List.length_append]
    omega
  simp only [range?, hwithin, List.take_length_add_append, List.drop_length_add_append]

end Place

/-- The bytes from a place on, escapes undone. An escape is four bytes long. -/
def scan (bs : List UInt8) (escape : Nat → Except Misstep (Option UInt8)) (i : Nat) :
    Except Misstep (List UInt8) :=
  if _ : i < bs.length then do
    match ← escape i with
    | some v => return v :: (← scan bs escape (i + 4))
    | none => return (← byteAt bs i) :: (← scan bs escape (i + 1))
  else .ok []
termination_by bs.length - i

section Scan

variable {bs out : List UInt8} {escape : Nat → Except Misstep (Option UInt8)} {i : Nat}

theorem scan_of_le (h : bs.length ≤ i) : scan bs escape i = .ok [] := by
  rw [scan, dif_neg (by omega)]

theorem scan_of_escape {v : UInt8} (hi : i < bs.length) (h : escape i = .ok (some v))
    (hrest : scan bs escape (i + 4) = .ok out) : scan bs escape i = .ok (v :: out) := by
  rw [scan, dif_pos hi, h, ok_bind]
  change (scan bs escape (i + 4) >>= _) = _
  rw [hrest]
  rfl

theorem scan_of_raw {x : UInt8} (hi : i < bs.length) (h : escape i = .ok none)
    (hx : byteAt bs i = .ok x) (hrest : scan bs escape (i + 1) = .ok out) :
    scan bs escape i = .ok (x :: out) := by
  rw [scan, dif_pos hi, h, ok_bind]
  change (byteAt bs i >>= _) = _
  rw [hx, ok_bind, hrest]
  rfl

end Scan

/-! ## Octal escapes -/

section Arithmetic

variable {a b : UInt8}

theorem add_eq_ok (h : a.toNat + b.toNat < 256) : add a b = .ok (a + b) := by
  rw [add, byte, if_pos h, UInt8.ofNat_add, UInt8.ofNat_toNat, UInt8.ofNat_toNat]

theorem mul_eq_ok (h : a.toNat * b.toNat < 256) : mul a b = .ok (a * b) := by
  rw [mul, byte, if_pos h, UInt8.ofNat_mul, UInt8.ofNat_toNat, UInt8.ofNat_toNat]

theorem sub_eq_ok (h : b.toNat ≤ a.toNat) : sub a b = .ok (a - b) :=
  if_pos (UInt8.le_iff_toNat_le.2 h)

theorem toNat_sub_zero_digit (h : 48 ≤ a.toNat) : (a - 0x30).toNat = a.toNat - 48 :=
  UInt8.toNat_sub_of_le _ _ (UInt8.le_iff_toNat_le.2 h)

end Arithmetic

def isTriplet (digits : List UInt8) : Except Misstep Bool := do
  if digits.length = 3 then
    return (← byteAt digits 0) ≤ 0x33 && digits.all isOctalDigit
  else return false

def tripletValue (a b c : UInt8) : Except Misstep UInt8 := do
  let high ← mul (← sub a 0x30) 64
  let middle ← mul (← sub b 0x30) 8
  add (← add high middle) (← sub c 0x30)

def octalAt (bs : List UInt8) (i : Nat) : Except Misstep (Option UInt8) := do
  if (← byteAt bs i) = backslash ∧ i + 3 < bs.length then
    if ← isTriplet (← range bs (i + 1) (i + 4)) then
      some <$> tripletValue (← byteAt bs (i + 1)) (← byteAt bs (i + 2)) (← byteAt bs (i + 3))
    else return none
  else return none

def scanOctal (s : List Char) : Except Misstep (List Char) :=
  (scan (encode s) (octalAt (encode s)) 0).map Utf8.decodeLossy

theorem isTriplet_eq (a b c : UInt8) : isTriplet [a, b, c] = .ok (isOctalTriplet a b c) := by
  change Except.ok (decide (a ≤ 0x33) && [a, b, c].all isOctalDigit) = _
  simp only [isOctalTriplet, List.all_cons, List.all_nil, Bool.and_true, Bool.and_assoc]

/-- Three digits of which the first is at most 3 spell at most 255. -/
theorem tripletValue_eq {a b c : UInt8} (h : isOctalTriplet a b c = true) :
    tripletValue a b c = .ok (octalValue a b c) := by
  simp only [isOctalTriplet, isOctalDigit, Bool.and_eq_true, decide_eq_true_eq,
    UInt8.le_iff_toNat_le] at h
  obtain ⟨⟨⟨ha, ha0, -⟩, hb0, hb⟩, hc0, hc⟩ := h
  change a.toNat ≤ 51 at ha
  change b.toNat ≤ 55 at hb
  change c.toNat ≤ 55 at hc
  have hhigh : (a - 0x30).toNat = a.toNat - 48 := toNat_sub_zero_digit ha0
  have hmiddle : (b - 0x30).toNat = b.toNat - 48 := toNat_sub_zero_digit hb0
  have hlow : (c - 0x30).toNat = c.toNat - 48 := toNat_sub_zero_digit hc0
  have hhigh64 : ((a - 0x30) * 64).toNat = (a.toNat - 48) * 64 := by
    rw [UInt8.toNat_mul, hhigh]
    exact Nat.mod_eq_of_lt (by change (a.toNat - 48) * 64 < 256; omega)
  have hmiddle8 : ((b - 0x30) * 8).toNat = (b.toNat - 48) * 8 := by
    rw [UInt8.toNat_mul, hmiddle]
    exact Nat.mod_eq_of_lt (by change (b.toNat - 48) * 8 < 256; omega)
  have hsum : ((a - 0x30) * 64 + (b - 0x30) * 8).toNat =
      (a.toNat - 48) * 64 + (b.toNat - 48) * 8 := by
    rw [UInt8.toNat_add, hhigh64, hmiddle8]
    exact Nat.mod_eq_of_lt (by omega)
  rw [tripletValue, sub_eq_ok ha0, ok_bind, sub_eq_ok hb0, sub_eq_ok hc0,
    mul_eq_ok (by rw [hhigh]; change (a.toNat - 48) * 64 < 256; omega), ok_bind, ok_bind,
    mul_eq_ok (by rw [hmiddle]; change (b.toNat - 48) * 8 < 256; omega), ok_bind,
    add_eq_ok (by rw [hhigh64, hmiddle8]; omega), ok_bind, ok_bind,
    add_eq_ok (by rw [hsum, hlow]; omega)]
  rfl

section OctalAt

variable (seen : List UInt8) {ahead : List UInt8} {a b c x : UInt8}

theorem octalAt_cons (h : x ≠ backslash ∨ ahead.length < 3) :
    octalAt (seen ++ x :: ahead) seen.length = .ok none := by
  have hhere : byteAt (seen ++ x :: ahead) seen.length = .ok x := byteAt_append seen _ 0
  have hnone : ¬ (x = backslash ∧ seen.length + 3 < (seen ++ x :: ahead).length) := by
    rw [List.length_append, List.length_cons]
    rintro ⟨hx, hlength⟩
    rcases h with h | h
    · exact h hx
    · omega
  rw [octalAt, hhere, ok_bind, if_neg hnone]
  rfl

theorem octalAt_backslash :
    octalAt (seen ++ 0x5C :: a :: b :: c :: ahead) seen.length =
      .ok (if isOctalTriplet a b c then some (octalValue a b c) else none) := by
  have hhere : byteAt (seen ++ 0x5C :: a :: b :: c :: ahead) seen.length = .ok 0x5C :=
    byteAt_append seen _ 0
  have hdigits : range (seen ++ 0x5C :: a :: b :: c :: ahead) (seen.length + 1)
      (seen.length + 4) = .ok [a, b, c] := by
    rw [range, range?_append]
    simp [range?]
  rw [octalAt, hhere, ok_bind, if_pos ⟨rfl, by simp⟩, hdigits, ok_bind, isTriplet_eq, ok_bind]
  split
  next h =>
    simp only [byteAt_append]
    change some <$> tripletValue a b c = _
    rw [tripletValue_eq h]
    rfl
  next => rfl

end OctalAt

theorem scan_octalAt {bs : List UInt8} (seen ahead : List UInt8) (h : bs = seen ++ ahead) :
    scan bs (octalAt bs) seen.length = .ok (unescapeOctal ahead) := by
  fun_induction unescapeOctal ahead generalizing seen with
  | case1 => exact scan_of_le (by simp [h])
  | case2 a b c rest htriplet ih =>
    have hrest := ih (seen ++ [0x5C, a, b, c]) (by simp [h])
    rw [List.length_append] at hrest
    apply scan_of_escape _ _ hrest
    · simp [h]
    · rw [h, octalAt_backslash, if_pos htriplet]
  | case3 a b c rest htriplet ih =>
    have hrest := ih (seen ++ [0x5C]) (by simp [h])
    rw [List.length_append] at hrest
    apply scan_of_raw _ _ _ hrest
    · simp [h]
    · rw [h, octalAt_backslash, if_neg htriplet]
    · rw [h]
      exact byteAt_append seen _ 0
  | case4 x rest hraw ih =>
    have hrest := ih (seen ++ [x]) (by simp [h])
    rw [List.length_append] at hrest
    have hnone : x ≠ backslash ∨ rest.length < 3 := by
      match rest with
      | [] | [_] | [_, _] => exact .inr (by simp)
      | a :: b :: c :: rest => exact .inl fun hx => hraw a b c rest hx rfl
    apply scan_of_raw _ _ _ hrest
    · simp [h]
    · rw [h, octalAt_cons seen hnone]
    · rw [h]
      exact byteAt_append seen _ 0

theorem scanOctal_eq (s : List Char) : scanOctal s = .ok (octal s) := by
  have hscan : scan (encode s) (octalAt (encode s)) 0 = .ok (unescapeOctal (encode s)) :=
    scan_octalAt [] (encode s) rfl
  rw [scanOctal, hscan]
  rfl

/-! ## Hexadecimal escapes -/

def hexByte? (digits : List Char) : Option UInt8 :=
  (digits.mapM Hotplug.hexDigit?).bind fun ds => (byte (ofDigits 16 ds)).toOption

/-- The byte that is escaped at a place in a text, if one is. The digits are looked at as bytes and
then read as text. -/
def hexAt (s : List Char) (i : Nat) : Except Misstep (Option UInt8) := do
  if (← byteAt (encode s) i) = backslash ∧ (encode s)[i + 1]? = some 0x78 then
    match (range? (encode s) (i + 2) (i + 4)).filter (·.all fun d => (hexDigit? d).isSome) with
    | some _ => hexByte? <$> textRange s (i + 2) (i + 4)
    | none => return none
  else return none

def scanHex (s : List Char) : Except Misstep (List Char) :=
  (scan (encode s) (hexAt s) 0).map Utf8.decodeLossy

theorem hexDigit?_ofNat {d v : UInt8} (h : hexDigit? d = some v) :
    d.toNat < 0x80 ∧ v.toNat < 16 ∧ Hotplug.hexDigit? (Char.ofNat d.toNat) = some v.toNat := by
  have hall : ∀ n < 256, ∀ v ∈ hexDigit? (UInt8.ofNat n),
      n < 0x80 ∧ v.toNat < 16 ∧ Hotplug.hexDigit? (Char.ofNat n) = some v.toNat := by
    decide +kernel
  apply hall d.toNat d.toNat_lt
  rw [UInt8.ofNat_toNat, h]
  rfl

theorem hexByte?_eq {a b x y : UInt8} (ha : hexDigit? a = some x) (hb : hexDigit? b = some y) :
    hexByte? [Char.ofNat a.toNat, Char.ofNat b.toNat] = some (x * 16 + y) := by
  obtain ⟨-, hx, ha⟩ := hexDigit?_ofNat ha
  obtain ⟨-, hy, hb⟩ := hexDigit?_ofNat hb
  have hvalue : ofDigits 16 [x.toNat, y.toNat] = x.toNat * 16 + y.toNat := by
    simp [ofDigits]
  have hbyte : byte (x.toNat * 16 + y.toNat) = .ok (x * 16 + y) := by
    rw [byte, if_pos (by omega), UInt8.ofNat_add, UInt8.ofNat_mul, UInt8.ofNat_toNat,
      UInt8.ofNat_toNat]
    rfl
  simp [hexByte?, ha, hb, hvalue, hbyte, Except.toOption]

theorem textRange_append (front middle behind : List Char) :
    textRange (front ++ middle ++ behind) (encode front).length
      (encode (front ++ middle)).length = .ok middle := by
  rw [textRange, Utf8.cutAt?_length_encode, Option.bind_some, Utf8.cutAt?_length_encode]

section HexAt

variable {s : List Char} {seen ahead : List UInt8} {a b v x : UInt8}

theorem textRange_digits (hs : encode s = seen ++ 0x5C :: 0x78 :: a :: b :: ahead)
    (ha : a.toNat < 0x80) (hb : b.toNat < 0x80) :
    textRange s (seen.length + 2) (seen.length + 4) =
      .ok [Char.ofNat a.toNat, Char.ofNat b.toNat] := by
  have hlead : encode s = (seen ++ [0x5C]) ++ 0x78 :: a :: b :: ahead := by simp [hs]
  obtain ⟨front, s₁, rfl, hfront, h₁⟩ := Utf8.exists_of_encode_eq_append_cons (by decide) hlead
  obtain ⟨s₂, rfl, h₂⟩ := Utf8.exists_of_encode_eq_cons ha h₁
  obtain ⟨behind, rfl, h₃⟩ := Utf8.exists_of_encode_eq_cons hb h₂
  have hdigits : (encode [Char.ofNat a.toNat, Char.ofNat b.toNat]).length = 2 := by
    have hlength : (encode ([Char.ofNat a.toNat, Char.ofNat b.toNat] ++ behind)).length =
        ahead.length + 2 := congrArg List.length h₁
    rw [Utf8.encode_append, List.length_append, h₃] at hlength
    omega
  have hmiddle : (encode (front ++ ['x'])).length = seen.length + 2 := by
    rw [Utf8.encode_append, List.length_append, hfront, List.length_append]
    rfl
  have htext := textRange_append (front ++ ['x']) [Char.ofNat a.toNat, Char.ofNat b.toNat] behind
  rw [Utf8.encode_append (front ++ ['x']), List.length_append, hmiddle, hdigits,
    List.append_assoc, List.append_assoc] at htext
  exact htext

/-- What `hexAt` sees of the bytes behind an escape. -/
theorem digits_of_encode (hs : encode s = seen ++ 0x5C :: 0x78 :: a :: b :: ahead) :
    (range? (encode s) (seen.length + 2) (seen.length + 4)).filter
        (·.all fun d => (hexDigit? d).isSome) =
      if (hexDigit? a).isSome ∧ (hexDigit? b).isSome then some [a, b] else none := by
  rw [hs, range?_append]
  simp [range?, Option.filter_some]

theorem hexAt_of_value (hs : encode s = seen ++ 0x5C :: 0x78 :: a :: b :: ahead)
    (h : hexValue? a b = some v) : hexAt s seen.length = .ok (some v) := by
  obtain ⟨x, y, ha, hb, rfl⟩ : ∃ x y, hexDigit? a = some x ∧ hexDigit? b = some y ∧
      x * 16 + y = v := by
    unfold hexValue? at h
    split at h
    next x y ha hb => exact ⟨x, y, ha, hb, Option.some.inj h⟩
    next => contradiction
  have hhere : byteAt (encode s) seen.length = .ok 0x5C := by
    rw [hs]
    exact byteAt_append seen _ 0
  have hnext : (encode s)[seen.length + 1]? = some 0x78 := by simp [hs]
  rw [hexAt, hhere, ok_bind, if_pos ⟨rfl, hnext⟩, digits_of_encode hs, if_pos (by simp [ha, hb])]
  change hexByte? <$> textRange s (seen.length + 2) (seen.length + 4) = _
  rw [textRange_digits hs (hexDigit?_ofNat ha).1 (hexDigit?_ofNat hb).1]
  exact congrArg Except.ok (hexByte?_eq ha hb)

theorem hexAt_of_no_value (hs : encode s = seen ++ x :: ahead)
    (h : ∀ a b rest, x = backslash → ahead = 0x78 :: a :: b :: rest → hexValue? a b = none) :
    hexAt s seen.length = .ok none := by
  have hhere : byteAt (encode s) seen.length = .ok x := by
    rw [hs]
    exact byteAt_append seen _ 0
  rw [hexAt, hhere, ok_bind]
  split
  next hescape =>
    obtain ⟨hx, hnext⟩ := hescape
    rw [hs, List.getElem?_append_right (Nat.le_add_right _ _), Nat.add_sub_cancel_left] at hnext
    -- Behind the backslash there is an `x`, and then fewer than two digits.
    match ahead with
    | [] => simp at hnext
    | [_] | [_, _] =>
      rw [hs, range?_append]
      simp [range?]
      rfl
    | y :: a :: b :: rest =>
      obtain rfl : y = 0x78 := by simpa using hnext
      have hvalue := h a b rest hx rfl
      have hdigits : ¬ ((hexDigit? a).isSome ∧ (hexDigit? b).isSome) := by
        rintro ⟨ha, hb⟩
        obtain ⟨x, hx⟩ := Option.isSome_iff_exists.1 ha
        obtain ⟨y, hy⟩ := Option.isSome_iff_exists.1 hb
        rw [hexValue?, hx, hy] at hvalue
        contradiction
      subst hx
      rw [digits_of_encode hs, if_neg hdigits]
      rfl
  next => rfl

end HexAt

theorem scan_hexAt {s : List Char} (seen ahead : List UInt8) (h : encode s = seen ++ ahead) :
    scan (encode s) (hexAt s) seen.length = .ok (unescapeHex ahead) := by
  fun_induction unescapeHex ahead generalizing seen with
  | case1 => exact scan_of_le (by simp [h])
  | case2 a b rest v hvalue ih =>
    have hrest := ih (seen ++ [0x5C, 0x78, a, b]) (by simp [h])
    rw [List.length_append] at hrest
    apply scan_of_escape _ (hexAt_of_value h hvalue) hrest
    simp [h]
  | case3 a b rest hvalue ih =>
    have hrest := ih (seen ++ [0x5C]) (by simp [h])
    rw [List.length_append] at hrest
    apply scan_of_raw _ _ _ hrest
    · simp [h]
    · apply hexAt_of_no_value h
      rintro a b rest - ⟨⟩
      exact hvalue
    · rw [h]
      exact byteAt_append seen _ 0
  | case4 x rest hraw ih =>
    have hrest := ih (seen ++ [x]) (by simp [h])
    rw [List.length_append] at hrest
    apply scan_of_raw _ _ _ hrest
    · simp [h]
    · apply hexAt_of_no_value h
      intro a b rest hx hrest
      exact (hraw a b rest hx hrest).elim
    · rw [h]
      exact byteAt_append seen _ 0

theorem scanHex_eq (s : List Char) : scanHex s = .ok (hex s) := by
  have hscan : scan (encode s) (hexAt s) 0 = .ok (unescapeHex (encode s)) :=
    scan_hexAt [] (encode s) rfl
  rw [scanHex, hscan]
  rfl

end Escape

end Hotplug
