/-!
# UTF-8

Encoding of text into bytes, and two ways back: `decode?` refuses ill-formed bytes, `decodeLossy`
puts one U+FFFD in place of every maximal ill-formed part.

The decoder is a machine that takes one byte at a time. A sequence under way is a `Pending`: the
bits so far, how many bytes are missing, and the range the next byte has to lie in. The ranges rule
out overlong forms, surrogates and everything above U+10FFFF, so a byte outside its range ends an
ill-formed part exactly where the longest possible prefix of a character ends.
-/

namespace Hotplug.Utf8

def encode (s : List Char) : List UInt8 :=
  s.flatMap String.utf8EncodeChar

def size (s : List Char) : Nat :=
  s.foldr (fun c n => c.utf8Size + n) 0

theorem length_encode (s : List Char) : (encode s).length = size s := by
  induction s with
  | nil => rfl
  | cons c s ih => simp_all [encode, size, String.length_utf8EncodeChar]

structure Pending where
  bits : Nat
  missing : Nat
  low : UInt8
  high : UInt8
deriving DecidableEq, Repr

/-- What one byte completes: a character, or an ill-formed part written `none`. -/
abbrev Piece := Option Char

def start (b : UInt8) : List Piece × Option Pending :=
  if b < 0x80 then ([some (Char.ofNat b.toNat)], none)
  else if b < 0xC2 then ([none], none)
  else if b < 0xE0 then ([], some ⟨b.toNat - 0xC0, 1, 0x80, 0xBF⟩)
  else if b = 0xE0 then ([], some ⟨0, 2, 0xA0, 0xBF⟩)
  else if b = 0xED then ([], some ⟨0xD, 2, 0x80, 0x9F⟩)
  else if b < 0xF0 then ([], some ⟨b.toNat - 0xE0, 2, 0x80, 0xBF⟩)
  else if b = 0xF0 then ([], some ⟨0, 3, 0x90, 0xBF⟩)
  else if b < 0xF4 then ([], some ⟨b.toNat - 0xF0, 3, 0x80, 0xBF⟩)
  else if b = 0xF4 then ([], some ⟨4, 3, 0x80, 0x8F⟩)
  else ([none], none)

/-- One step of the machine. A byte that cannot continue the sequence under way ends it as
ill-formed and is then read afresh. -/
def feed : Option Pending → UInt8 → List Piece × Option Pending
  | none, b => start b
  | some p, b =>
    if p.low ≤ b ∧ b ≤ p.high then
      let bits := p.bits * 64 + (b.toNat - 0x80)
      match p.missing with
      | 0 | 1 => ([some (Char.ofNat bits)], none)
      | n + 1 => ([], some ⟨bits, n, 0x80, 0xBF⟩)
    else
      (none :: (start b).1, (start b).2)

def pieces : Option Pending → List UInt8 → List Piece
  | none, [] => []
  | some _, [] => [none]
  | st, b :: bs => (feed st b).1 ++ pieces (feed st b).2 bs

/-- Text of the bytes, with U+FFFD for every ill-formed part. -/
def decodeLossy (bs : List UInt8) : List Char :=
  (pieces none bs).map (·.getD '\uFFFD')

def decode? (bs : List UInt8) : Option (List Char) :=
  (pieces none bs).mapM id

def ofString (s : String) : List UInt8 :=
  encode s.toList

def toStringLossy (bs : List UInt8) : String :=
  String.ofList (decodeLossy bs)

def toString? (bs : List UInt8) : Option String :=
  (decode? bs).map String.ofList

end Hotplug.Utf8
