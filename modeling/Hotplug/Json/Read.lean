import Hotplug.Json.Number
import Hotplug.Json.Text
/-!
# Reading JSON

Readers take a value from the front of a text and leave the rest. A record is read from an object,
or from an array of its fields in order. Fields of an object that a record does not have are passed
over, a field given twice is refused where it is met again.
-/

namespace Hotplug.Json

abbrev Reader := StateT (List Char) (Except Fault)

def isSpace (c : Char) : Bool :=
  c = ' ' || c = '\n' || c = '\t' || c = '\r'

def dropSpaces (s : List Char) : List Char :=
  s.dropWhile isSpace

def word : List Char → List Char → Except Fault (List Char)
  | [], s => .ok s
  | _ :: _, [] => .error .truncated
  | w :: ws, c :: s => if w = c then word ws s else .error .malformed

structure Walk where
  text : List Char → Except Fault (List Char)
  number : List Char → Except Fault (List Char)

def Walk.lenient : Walk where
  text := skipString
  number := Number.skip

def Walk.strict : Walk where
  text s := (readString s).map (·.2)
  number s := (Number.read s).map (·.2)

mutual

/-- What follows a value whose arrays and objects are nested at most `depth` deep. -/
def skipValue (w : Walk) (depth : Nat) : Nat → List Char → Except Fault (List Char)
  | 0, _ => .error .malformed
  | fuel + 1, s =>
    match dropSpaces s with
    | [] => .error .truncated
    | 'n' :: s => word ['u', 'l', 'l'] s
    | 't' :: s => word ['r', 'u', 'e'] s
    | 'f' :: s => word ['a', 'l', 's', 'e'] s
    | '"' :: s => w.text s
    | '[' :: s =>
      if depth = 0 then .error .malformed
      else
        match dropSpaces s with
        | [] => .error .truncated
        | ']' :: s => .ok s
        | s => skipElements w (depth - 1) fuel s
    | '\x7b' :: s =>
      if depth = 0 then .error .malformed
      else
        match dropSpaces s with
        | [] => .error .truncated
        | '\x7d' :: s => .ok s
        | s => skipMembers w (depth - 1) fuel s
    | c :: s => if c = '-' || Number.isDigit c then w.number (c :: s) else .error .malformed

def skipElements (w : Walk) (depth : Nat) : Nat → List Char → Except Fault (List Char)
  | 0, _ => .error .malformed
  | fuel + 1, s => do
    let s ← skipValue w depth fuel s
    match dropSpaces s with
    | [] => .error .truncated
    | ',' :: s => skipElements w depth fuel s
    | ']' :: s => .ok s
    | _ => .error .malformed

def skipMembers (w : Walk) (depth : Nat) : Nat → List Char → Except Fault (List Char)
  | 0, _ => .error .malformed
  | fuel + 1, s =>
    match dropSpaces s with
    | [] => .error .truncated
    | '"' :: s => do
      let s ← w.text s
      match dropSpaces s with
      | [] => .error .truncated
      | ':' :: s =>
        let s ← skipValue w depth fuel s
        match dropSpaces s with
        | [] => .error .truncated
        | ',' :: s => skipMembers w depth fuel s
        | '\x7d' :: s => .ok s
        | _ => .error .malformed
      | _ => .error .malformed
    | _ => .error .malformed

end

/-- Passes over a value. Every step inside a value takes a character, and at most two steps are
taken between two characters, so the steps suffice. -/
def skip (w : Walk) (depth : Nat) : Reader Unit := fun s =>
  (skipValue w depth (2 * s.length + 2) s).map ((), ·)

def ignore : Reader Unit := fun s =>
  skip .lenient s.length s

def fail {α : Type} (f : Fault) : Reader α := fun _ => .error f

def look : Reader (Option Char) := fun s =>
  let s := dropSpaces s
  .ok (s.head?, s)

def advance : Reader Unit := modify List.tail

/-- A value of the wrong kind is read far enough to know that it is a value. -/
def wrongKind {α : Type} : Reader α := do
  match (← look) with
  | some '"' => advance; let _ ← (readString : Reader (List Char)); fail .mismatch
  | some '[' | some '\x7b' => fail .mismatch
  | some c =>
    if c = 'n' || c = 't' || c = 'f' || c = '-' || Number.isDigit c then
      skip .strict 0
      fail .mismatch
    else fail .malformed
  | none => fail .malformed

def string : Reader String := do
  match (← look) with
  | none => fail .truncated
  | some '"' => advance; return String.ofList (← readString)
  | some _ => wrongKind

def natural : Reader Nat := do
  match (← look) with
  | none => fail .truncated
  | some c =>
    if c = '-' || Number.isDigit c then
      match (← (Number.read : Reader Number)) with
      | .natural n => return n
      | .other => fail .mismatch
    else wrongKind

def stringAs {α : Type} (of? : String → Option α) : Reader α := do
  match of? (← string) with
  | some a => return a
  | none => fail .mismatch

def colon : Reader Unit := do
  match (← look) with
  | some ':' => advance
  | some _ => fail .malformed
  | none => fail .truncated

/-- There is another element in an array; the closing bracket is not taken. -/
def more (first : Bool) : Reader Bool := do
  match (← look) with
  | none => fail .truncated
  | some ']' => return false
  | some c =>
    if first then return true
    else if c = ',' then
      advance
      match (← look) with
      | none => fail .truncated
      | some ']' => fail .malformed
      | some _ => return true
    else fail .malformed

def close : Reader Unit := do
  match (← look) with
  | some ']' => advance
  | some _ => fail .malformed
  | none => fail .truncated

def element {α : Type} (first : Bool) (value : Reader α) : Reader α := do
  if (← more first) then value else fail .mismatch

def element? {α : Type} (first : Bool) (value : Reader α) : Reader (Option α) := do
  if (← more first) then return some (← value) else return none

/-- The members of an object, from behind its brace to behind its closing brace. `member` is given
what has been gathered and a key, and reads from the colon on. -/
def members {σ : Type} (member : σ → String → Reader σ) : Nat → Bool → σ → Reader σ
  | 0, _, _ => fail .malformed
  | fuel + 1, first, acc => do
    match (← look) with
    | none => fail .truncated
    | some '\x7d' => advance; return acc
    | some c =>
      if !first then
        if c = ',' then advance else fail .malformed
      match (← look) with
      | none => fail .truncated
      | some '"' =>
        advance
        let key := String.ofList (← readString)
        members member fuel false (← member acc key)
      | some _ => fail .malformed

def record {σ α : Type} (start : σ) (member : σ → String → Reader σ) (finish : σ → Option α)
    (elements : Reader α) : Reader α := do
  match (← look) with
  | none => fail .truncated
  | some '[' =>
    advance
    let a ← elements
    close
    return a
  | some '\x7b' =>
    advance
    let acc ← members member ((← get).length + 1) true start
    match finish acc with
    | some a => return a
    | none => fail .mismatch
  | some _ => wrongKind

def once {α : Type} (given : Option α) (value : Reader α) : Reader (Option α) := do
  if given.isSome then fail .mismatch
  colon
  return some (← value)

def unknown : Reader Unit := do
  colon
  ignore

def run {α : Type} (value : Reader α) (text : String) : Except Fault α := do
  let (a, rest) ← value text.toList
  if dropSpaces rest = [] then return a else .error .malformed

end Hotplug.Json
