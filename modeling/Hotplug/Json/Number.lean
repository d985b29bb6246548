import Hotplug.Json.Fault
import Hotplug.Text.Number
/-!
# Numbers in JSON

A number is read as a natural number of 64 bits, or as some other number, whose value no record
needs. A number that a double cannot hold is refused. Whether it can is decided as arithmetic on
doubles decides it: the digits that fit into 64 bits and the power of ten are rounded to 53 bits
each, and then so is their product.
-/

namespace Hotplug.Json

inductive Number where
  | natural (n : Nat)
  | other
deriving DecidableEq, Repr

namespace Number

def isDigit (c : Char) : Bool := (digit? c).isSome

/-- The multiple of a power of two nearest to `n` that has 53 bits, a tie going to the even one. -/
def round53 (n : Nat) : Nat :=
  if n < Nat.pow 2 53 then n
  else
    let unit := Nat.pow 2 (n.log2 - 52)
    let q := n / unit
    let r := n % unit
    if r * 2 > unit || (r * 2 = unit && q % 2 = 1) then (q + 1) * unit else q * unit

/-- `significand · 10^exponent` rounds to infinity. -/
def isInfinite (significand : Nat) (exponent : Int) : Bool :=
  if significand = 0 ∨ exponent < 0 then false
  else if exponent > 308 then true
  else round53 significand * round53 (Nat.pow 10 exponent.toNat) ≥ Nat.pow 2 1024 - Nat.pow 2 970

/-- Digits taken into a significand while it fits into 64 bits, and the digits left over. -/
def gather (significand : Nat) : List Char → Nat × List Char
  | [] => (significand, [])
  | c :: cs =>
    match digit? c with
    | none => (significand, c :: cs)
    | some d =>
      if significand * 10 + d ≤ maxWord then gather (significand * 10 + d) cs
      else (significand, c :: cs)

def maxExponent : Nat := Nat.pow 2 31 - 1

def finish (significand : Nat) (exponent : Int) (s : List Char) :
    Except Fault (Number × List Char) :=
  match s with
  | e :: s =>
    if e = 'e' ∨ e = 'E' then
      let (negative, s) := match s with
        | '+' :: s => (false, s)
        | '-' :: s => (true, s)
        | s => (false, s)
      match s with
      | [] => .error .truncated
      | c :: _ =>
        if isDigit c then
          let ds := s.takeWhile isDigit
          let written := min ((digits? ds).getD 0) (maxExponent + 1)
          let exponent := if negative then exponent - written else exponent + written
          if isInfinite significand exponent then .error .malformed
          else .ok (.other, s.dropWhile isDigit)
        else .error .malformed
    else if isInfinite significand exponent then .error .malformed
    else .ok (.other, e :: s)
  | [] => if isInfinite significand exponent then .error .malformed else .ok (.other, [])

def decimals (significand : Nat) (exponent : Int) (s : List Char) :
    Except Fault (Number × List Char) :=
  match s with
  | [] => .error .truncated
  | c :: _ =>
    if isDigit c then
      let (significand', left) := gather significand s
      finish significand' (exponent - (s.length - left.length : Nat)) (left.dropWhile isDigit)
    else .error .malformed

def read (s : List Char) : Except Fault (Number × List Char) :=
  let (negative, s) := match s with
    | '-' :: s => (true, s)
    | s => (false, s)
  match s with
  | [] => .error .truncated
  | '0' :: r => if r.head?.any isDigit then .error .malformed else whole negative 0 r 0
  | c :: _ =>
    if isDigit c then
      let (significand, left) := gather 0 s
      let rest := left.dropWhile isDigit
      whole negative significand rest (left.length - rest.length)
    else .error .malformed
where
  /-- The number after its digits, of which `dropped` did not fit. -/
  whole (negative : Bool) (significand : Nat) (s : List Char) (dropped : Nat) :
      Except Fault (Number × List Char) :=
    match s with
    | '.' :: s => decimals significand dropped s
    | s =>
      if s.head?.any (fun c => c = 'e' ∨ c = 'E') ∨ dropped > 0 then finish significand dropped s
      else if negative then .ok (.other, s)
      else .ok (.natural significand, s)

def skip (s : List Char) : Except Fault (List Char) :=
  let s := match s with
    | '-' :: s => s
    | s => s
  match s with
  | '0' :: r => if r.head?.any isDigit then .error .malformed else fractional r
  | c :: _ => if isDigit c then fractional (s.dropWhile isDigit) else .error .malformed
  | [] => .error .malformed
where
  fractional : List Char → Except Fault (List Char)
    | '.' :: c :: s =>
      if isDigit c then exponential (s.dropWhile isDigit) else .error .malformed
    | ['.'] => .error .malformed
    | s => exponential s
  exponential : List Char → Except Fault (List Char)
    | [] => .ok []
    | e :: s =>
      if e = 'e' ∨ e = 'E' then
        let s := match s with
          | '+' :: s => s
          | '-' :: s => s
          | s => s
        if s.head?.any isDigit then .ok (s.dropWhile isDigit) else .error .malformed
      else .ok (e :: s)

end Number

end Hotplug.Json
