import Hotplug.Text.Blank
import Hotplug.Text.Number
import Hotplug.Time.Calendar
import Hotplug.Time.Instant
/-!
# Timestamps

The text of an instant: date and time of day in UTC, a fraction of no, three, six or nine digits
as it needs, and `Z`.

Reading is more lenient. White space may stand before a number, a colon or a dash and around the
time, fields may be short, a year may have a sign and then any number of digits, and the time may
be given at an offset from UTC. A second may be the sixtieth: it is the leap second that belongs to
the second before it.
-/

namespace Hotplug.Timestamp

abbrev Scan (α : Type) := List Char → Option (α × List Char)

private def isDigit (c : Char) : Bool := (digit? c).isSome

/-- A number of at least one digit and at most `width`, after white space. -/
def field (width : Nat) : Scan Nat := fun s =>
  let s := trimLeft s
  let ds := (s.take width).takeWhile isDigit
  (digits? ds).map (·, s.drop ds.length)

/-- A year: four digits at most, or a sign and any number of digits. -/
def year : Scan Int := fun s =>
  match trimLeft s with
  | '-' :: rest => (signed rest).map fun (n, rest) => (-(n : Int), rest)
  | '+' :: rest => (signed rest).map fun (n, rest) => ((n : Int), rest)
  | s => (field 4 s).map fun (n, rest) => ((n : Int), rest)
where
  signed (s : List Char) : Option (Nat × List Char) :=
    let ds := s.takeWhile isDigit
    (digits? ds).map (·, s.drop ds.length)

def mark (c : Char) : Scan Unit := fun s =>
  match trimLeft s with
  | d :: rest => if d = c then some ((), rest) else none
  | [] => none

/-- Nanoseconds after a point; digits beyond the ninth are passed over. -/
def fraction : Scan Nat
  | '.' :: s =>
    let ds := s.takeWhile isDigit
    (digits? (ds.take 9)).map fun n => (n * Nat.pow 10 (9 - min ds.length 9), s.drop ds.length)
  | s => some (0, s)

def pair : Scan Nat
  | a :: b :: rest =>
    match digit? a, digit? b with
    | some x, some y => some (x * 10 + y, rest)
    | _, _ => none
  | _ => none

def offset : Scan Int := fun s =>
  match s with
  | 'Z' :: rest | 'z' :: rest => some (0, rest)
  | '+' :: rest => (span rest).map fun (n, rest) => ((n : Int), rest)
  | '-' :: rest | '\u2212' :: rest => (span rest).map fun (n, rest) => (-(n : Int), rest)
  | u :: t :: c :: rest =>
    if u.toUpper = 'U' ∧ t.toUpper = 'T' ∧ c.toUpper = 'C' then some (0, rest) else none
  | _ => none
where
  span (s : List Char) : Option (Nat × List Char) := do
    let (hours, s) ← pair s
    let (minutes, s) ← pair (s.dropWhile fun c => c = ':' || isBlank c)
    if minutes < 60 then some (hours * 3600 + minutes * 60, s) else none

def yearInRange (y : Int) : Bool :=
  -262143 ≤ y && y ≤ 262142

def parse? (text : String) : Option Instant := do
  let (y, s) ← year text.toList
  let (_, s) ← mark '-' s
  let (month, s) ← field 2 s
  let (_, s) ← mark '-' s
  let (day, s) ← field 2 s
  let date : Date := ⟨y, month, day⟩
  let s ← match s with
    | 't' :: s | 'T' :: s | ' ' :: s => some s
    | _ => none
  let (hour, s) ← field 2 s
  let (_, s) ← mark ':' s
  let (minute, s) ← field 2 s
  let (_, s) ← mark ':' s
  let (second, s) ← field 2 s
  let (nanos, s) ← fraction s
  let (shift, s) ← offset (trimLeft s)
  if trimLeft s ≠ [] then none
  else if !(date.isValid && yearInRange y) || hour > 23 || minute > 59 || second > 60 then none
  else if shift.natAbs ≥ 86400 then none
  else
    let ofDay : Nat := hour * 3600 + minute * 60 + min second 59
    let seconds := date.toDays * 86400 + ofDay - shift
    if yearInRange (Date.ofDays (seconds / 86400)).year then
      some ⟨seconds, nanos + if second = 60 then 1000000000 else 0⟩
    else none

def padded (width n : Nat) : List Char :=
  let ds := Nat.toDigits 10 n
  List.replicate (width - ds.length) '0' ++ ds

def yearText (y : Int) : List Char :=
  if 0 ≤ y ∧ y ≤ 9999 then padded 4 y.toNat
  else (if y < 0 then '-' else '+') :: padded 4 y.natAbs

/-- The digits that a fraction of a second needs, in groups of three. -/
def fractionText (nanos : Nat) : List Char :=
  if nanos = 0 then []
  else if nanos % 1000000 = 0 then '.' :: padded 3 (nanos / 1000000)
  else if nanos % 1000 = 0 then '.' :: padded 6 (nanos / 1000)
  else '.' :: padded 9 nanos

def render (t : Instant) : String :=
  let date := Date.ofDays (t.seconds / 86400)
  let ofDay := (t.seconds % 86400).toNat
  let leap := t.nanos ≥ 1000000000
  String.ofList <|
    yearText date.year ++ ['-'] ++ padded 2 date.month ++ ['-'] ++ padded 2 date.day ++ ['T'] ++
      padded 2 (ofDay / 3600) ++ [':'] ++ padded 2 (ofDay / 60 % 60) ++ [':'] ++
      padded 2 (ofDay % 60 + if leap then 1 else 0) ++ fractionText (t.nanos % 1000000000) ++ ['Z']

end Hotplug.Timestamp
