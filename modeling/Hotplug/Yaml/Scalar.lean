import Hotplug.Yaml.Cursor
/-!
# Scalars of YAML

The texts of the five kinds of scalar: plain, in single or double quotes, and the block scalars that
keep or fold their lines. A break between two lines of a folded text counts as a space, and breaks
after the first count as themselves.
-/

namespace Hotplug.Yaml

structure Between where
  /-- There has been a break. -/
  broken : Bool := false
  gaps : List Char := []
  first : List Char := []
  others : List Char := []

namespace Between

def text (b : Between) : List Char :=
  if b.broken then
    if b.first = ['\n'] then (if b.others = [] then [' '] else b.others) else b.first ++ b.others
  else b.gaps

/-- White space from a place on. `check` says whether a tab may stand at a place after a break. -/
def scan (check : Cursor → Bool) : Nat → Between → Cursor → Option (Between × Cursor)
  | 0, _, _ => none
  | fuel + 1, b, k =>
    if k.onGap then
      if b.broken then
        if k.head? = some '\t' && !check k then none else scan check fuel b (k.skip 1)
      else scan check fuel { b with gaps := b.gaps ++ (k.head?).toList } (k.skip 1)
    else if k.onBreak then
      let (br, k) := k.takeBreak
      if b.broken then scan check fuel { b with others := b.others ++ br } k
      else scan check fuel { b with broken := true, gaps := [], first := br } k
    else some (b, k)

end Between

namespace Plain

def isFlowMark (c : Char) : Bool :=
  c = ',' || c = '[' || c = ']' || c = '\x7b' || c = '\x7d'

def endsWord (inFlow : Bool) (k : Cursor) : Bool :=
  (k.head? = some ':' && k.blankAt 1) || (inFlow && k.head?.any isFlowMark)

def badColon (inFlow : Bool) (k : Cursor) : Bool :=
  inFlow && k.head? = some ':' && (k.at? 1).any fun c => c = '?' || isFlowMark c

/-- One word, to the next white space or mark, put before `acc` backwards. -/
def word (inFlow : Bool) : Nat → List Char → Cursor → Option (List Char × Cursor)
  | 0, _, _ => none
  | fuel + 1, acc, k =>
    if k.blankAt 0 then some (acc, k)
    else if badColon inFlow k then none
    else if endsWord inFlow k then some (acc, k)
    else word inFlow fuel ((k.head?).toList ++ acc) (k.skip 1)

/-- The words of a plain scalar whose lines are indented by at least `indent`: the text backwards,
whether it ended after a break, and the place behind it. -/
def words (inFlow : Bool) (indent : Int) :
    Nat → List Char → Between → Cursor → Option (List Char × Bool × Cursor)
  | 0, _, _, _ => none
  | fuel + 1, text, between, k =>
    if k.onDocumentMark || k.head? = some '#' then some (text, between.broken, k)
    else do
      let (w, k) ← word inFlow (fuel + 1) [] k
      let (text, between) :=
        if w = [] then (text, between) else (w ++ between.text.reverse ++ text, {})
      if !(k.onGap || k.onBreak) then some (text, between.broken, k)
      else
        let (between, k) ← between.scan (fun k => indent ≤ k.column) (fuel + 1) k
        if !inFlow && (k.column : Int) < indent then some (text, between.broken, k)
        else words inFlow indent fuel text between k

end Plain

def plainScalar (inFlow : Bool) (indent : Int) (k : Cursor) :
    Option (List Char × Bool × Cursor) :=
  (Plain.words inFlow (indent + 1) (k.rest.length + 1) [] {} k).map fun (text, broken, k) =>
    (text.reverse, broken, k)

namespace Quoted

def letter? : Char → Option Char
  | '0' => some '\x00'
  | 'a' => some '\x07'
  | 'b' => some '\x08'
  | 't' | '\t' => some '\t'
  | 'n' => some '\n'
  | 'v' => some '\x0b'
  | 'f' => some '\x0c'
  | 'r' => some '\r'
  | 'e' => some '\x1b'
  | ' ' => some ' '
  | '"' => some '"'
  | '/' => some '/'
  | '\\' => some '\\'
  | 'N' => some '\u0085'
  | '_' => some '\u00a0'
  | 'L' => some '\u2028'
  | 'P' => some '\u2029'
  | _ => none

def codeLength? : Char → Option Nat
  | 'x' => some 2
  | 'u' => some 4
  | 'U' => some 8
  | _ => none

def codePoint? (ds : List Char) : Option Char := do
  let n := ofDigits 16 (← ds.mapM hexDigit?)
  if n > 0x10FFFF ∨ (0xD800 ≤ n ∧ n ≤ 0xDFFF) then none else some (Char.ofNat n)

/-- Characters up to the next white space or the closing quote, put before `acc` backwards, and
whether an escaped break has been passed. -/
def word (double : Bool) : Nat → List Char → Cursor → Option (List Char × Bool × Cursor)
  | 0, _, _ => none
  | fuel + 1, acc, k =>
    let quote := if double then '"' else '\''
    match k.rest with
    | [] => some (acc, false, k)
    | c :: s =>
      if isGap c || isBreak c then some (acc, false, k)
      else if !double && c = quote && s.head? = some quote then
        word double fuel (quote :: acc) (k.skip 2)
      else if c = quote then some (acc, false, k)
      else if double && c = '\\' then
        match s with
        | [] => none
        | e :: s =>
          if isBreak e then some (acc, true, (k.skip 1).takeBreak.2)
          else
            match letter? e, codeLength? e with
            | some d, _ => word double fuel (d :: acc) (k.skip 2)
            | none, some n =>
              if (s.take n).length < n then none
              else
                match codePoint? (s.take n) with
                | some d => word double fuel (d :: acc) (k.skip (2 + n))
                | none => none
            | none, none => none
      else word double fuel (c :: acc) (k.skip 1)

def words (double : Bool) : Nat → List Char → Cursor → Option (List Char × Cursor)
  | 0, _, _ => none
  | fuel + 1, text, k =>
    if k.onDocumentMark || k.atEnd then none
    else do
      let (text, broken, k) ← word double (fuel + 1) text k
      if k.head? = some (if double then '"' else '\'') then some (text, k.skip 1)
      else
        let (between, k) ← Between.scan (fun _ => true) (fuel + 1) { broken } k
        words double fuel (between.text.reverse ++ text) k

end Quoted

def quotedScalar (double : Bool) (k : Cursor) : Option (List Char × Cursor) :=
  (Quoted.words double (k.rest.length + 1) [] (k.skip 1)).map fun (text, k) => (text.reverse, k)

namespace Block

/-- What becomes of the breaks at the end of a block scalar. -/
inductive Chomping where
  | strip
  | clip
  | keep
deriving DecidableEq

def header (k : Cursor) : Option (Chomping × Nat × Cursor) :=
  match chomping? k with
  | some c => (increment (k.skip 1)).map fun (n, k) => (c, n, k)
  | none => do
    let (n, k) ← increment k
    match if n = 0 then none else chomping? k with
    | some c => some (c, n, k.skip 1)
    | none => some (.clip, n, k)
where
  chomping? (k : Cursor) : Option Chomping :=
    match k.head? with
    | some '+' => some .keep
    | some '-' => some .strip
    | _ => none
  increment (k : Cursor) : Option (Nat × Cursor) :=
    match k.head?.bind digit? with
    | some 0 => none
    | some n => some (n, k.skip 1)
    | none => some (0, k)

/-- Breaks and indentation, up to the next line that is not empty. An `indent` of zero is not known
yet; `widest` is the widest indentation met. -/
def breaks (indent : Nat) : Nat → Nat → List Char → Cursor → Option (Nat × List Char × Cursor)
  | 0, _, _, _ => none
  | fuel + 1, widest, acc, k =>
    let room := if indent = 0 then k.rest.length else indent - k.column
    let k := k.skip ((k.rest.take room).takeWhile (· = ' ')).length
    let widest := max widest k.column
    if (indent = 0 || k.column < indent) && k.head? = some '\t' then none
    else if k.onBreak then
      let (br, k) := k.takeBreak
      breaks indent fuel widest (acc ++ br) k
    else some (widest, acc, k)

/-- The lines of a block scalar, backwards. `first` is the break behind the line before, `others`
the breaks after that one, `gap` whether that line started with white space. -/
def lines (literal : Bool) (indent : Nat) :
    Nat → List Char → List Char → List Char → Bool → Cursor →
      Option (List Char × List Char × List Char × Cursor)
  | 0, _, _, _, _, _ => none
  | fuel + 1, text, first, others, gap, k =>
    if k.column ≠ indent || k.atEnd then some (text, first, others, k)
    else do
      let gapHere := k.onGap
      let joint :=
        if !literal && first = ['\n'] && !gap && !gapHere then
          if others = [] then [' '] else others
        else first ++ others
      let line := k.run (!isBreak ·)
      let (br, k) := (k.skip line.length).takeBreak
      let (_, others, k) ← breaks indent (fuel + 1) 0 [] k
      lines literal indent fuel (line.reverse ++ joint.reverse ++ text) br others gapHere k

end Block

/-- A block scalar, from its indicator, inside a block indented by `parent`, and the place behind
it. -/
def blockScalar (literal : Bool) (parent : Int) (k : Cursor) : Option (List Char × Cursor) := do
  let (chomping, increment, k) ← Block.header (k.skip 1)
  let k := k.skipWhile isGap
  let k := if k.head? = some '#' then k.skipWhile (!isBreak ·) else k
  if !(k.atEnd || k.onBreak) then none
  else
    let k := k.takeBreak.2
    let given := if increment = 0 then 0 else (max parent 0).toNat + increment
    let (widest, others, k) ← Block.breaks given (k.rest.length + 1) 0 [] k
    let indent := if given = 0 then max (max widest (parent + 1).toNat) 1 else given
    let (text, first, others, k) ←
      Block.lines literal indent (k.rest.length + 1) [] [] others false k
    let tail := match chomping with
      | .strip => []
      | .clip => first
      | .keep => first ++ others
    some (text.reverse ++ tail, k)

end Hotplug.Yaml
