import Hotplug.Text.Number
import Hotplug.Yaml.Document
/-!
# Numbers in YAML

A natural number is a plain scalar, or a literal one that is tagged as a number: digits after an
optional plus sign, decimal and without a leading zero, or in base two, eight or sixteen behind a
mark.
-/

namespace Hotplug.Yaml

namespace Scalar

def numberTag : List Char := "tag:yaml.org,2002:int".toList

def mayBeNumber (s : Scalar) : Bool :=
  s.style = .plain || (s.style = .literal && s.tag = some numberTag)

def based? (base : Nat) (ds : List Char) : Option Nat :=
  if ds = [] then none
  else
    (ds.mapM fun c => (hexDigit? c).bind fun d => if d < base then some d else none).map
      (ofDigits base)

def numeral? : List Char → Option Nat
  | '0' :: 'x' :: ds => based? 16 ds
  | '0' :: 'o' :: ds => based? 8 ds
  | '0' :: 'b' :: ds => based? 2 ds
  | '0' :: _ :: _ => none
  | ds => digits? ds

/-- The number of 64 bits that a scalar spells. -/
def natural? (s : Scalar) : Option Nat :=
  if s.mayBeNumber then
    (numeral? (match s.text with
      | '+' :: ds => ds
      | ds => ds)).filter (· ≤ maxWord)
  else none

end Scalar

end Hotplug.Yaml
