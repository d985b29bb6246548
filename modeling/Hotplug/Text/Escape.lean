import Hotplug.Text.Utf8
/-!
# Escaped bytes

Two ways of writing a byte in text. A mount table writes it as a backslash and three octal digits,
a directory of device links as a backslash, an `x` and two hexadecimal digits. Reading either way
keeps a backslash that starts no escape; the bytes are decoded at the end, so that the escapes of
one character may stand beside raw bytes of it.
-/

namespace Hotplug.Escape

def backslash : UInt8 := 0x5C

def isOctalDigit (b : UInt8) : Bool :=
  0x30 ≤ b && b ≤ 0x37

def isOctalTriplet (a b c : UInt8) : Bool :=
  a ≤ 0x33 && isOctalDigit a && isOctalDigit b && isOctalDigit c

def octalValue (a b c : UInt8) : UInt8 :=
  (a - 0x30) * 64 + (b - 0x30) * 8 + (c - 0x30)

def unescapeOctal : List UInt8 → List UInt8
  | [] => []
  | 0x5C :: a :: b :: c :: rest =>
    if isOctalTriplet a b c then octalValue a b c :: unescapeOctal rest
    else backslash :: unescapeOctal (a :: b :: c :: rest)
  | x :: rest => x :: unescapeOctal rest

def hexDigit? (b : UInt8) : Option UInt8 :=
  if 0x30 ≤ b && b ≤ 0x39 then some (b - 0x30)
  else if 0x61 ≤ b && b ≤ 0x66 then some (b - 0x61 + 10)
  else if 0x41 ≤ b && b ≤ 0x46 then some (b - 0x41 + 10)
  else none

def hexValue? (a b : UInt8) : Option UInt8 :=
  match hexDigit? a, hexDigit? b with
  | some x, some y => some (x * 16 + y)
  | _, _ => none

def unescapeHex : List UInt8 → List UInt8
  | [] => []
  | 0x5C :: 0x78 :: a :: b :: rest =>
    match hexValue? a b with
    | some v => v :: unescapeHex rest
    | none => backslash :: unescapeHex (0x78 :: a :: b :: rest)
  | x :: rest => x :: unescapeHex rest

def octal (s : List Char) : List Char :=
  Utf8.decodeLossy (unescapeOctal (Utf8.encode s))

def hex (s : List Char) : List Char :=
  Utf8.decodeLossy (unescapeHex (Utf8.encode s))

end Hotplug.Escape
