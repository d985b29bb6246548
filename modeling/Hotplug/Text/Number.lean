/-!
# Numbers in text

The values of digits, and unsigned decimal numbers: digits after an optional plus sign, leading
zeros allowed.
-/

namespace Hotplug

def digit? (c : Char) : Option Nat :=
  if '0' ≤ c ∧ c ≤ '9' then some (c.toNat - '0'.toNat) else none

def hexDigit? (c : Char) : Option Nat :=
  if '0' ≤ c ∧ c ≤ '9' then some (c.toNat - '0'.toNat)
  else if 'a' ≤ c ∧ c ≤ 'f' then some (c.toNat - 'a'.toNat + 10)
  else if 'A' ≤ c ∧ c ≤ 'F' then some (c.toNat - 'A'.toNat + 10)
  else none

def ofDigits (base : Nat) (ds : List Nat) : Nat :=
  ds.foldl (fun n d => n * base + d) 0

def digits? (s : List Char) : Option Nat :=
  if s = [] then none else (s.mapM digit?).map (ofDigits 10)

/-- The number spelled by digits after an optional plus sign. -/
def unsigned? : List Char → Option Nat
  | '+' :: s => digits? s
  | s => digits? s

def maxWord : Nat := Nat.pow 2 64 - 1

end Hotplug
