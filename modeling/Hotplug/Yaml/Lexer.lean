import Hotplug.Yaml.Scalar
import Hotplug.Yaml.Token
/-!
# From YAML text to tokens

Indentation opens and closes blocks. A text that turns out to be the key of a mapping, because a
colon follows it on its line, gets its mark afterwards: the place where the mark would go is
remembered while the key is possible.
-/

namespace Hotplug.Yaml

structure KeyPlace where
  /-- The number of tokens before it. -/
  token : Nat
  offset : Nat
  line : Nat
  column : Nat
  /-- Nothing but a key can start here. -/
  required : Bool
deriving Repr

structure Lexer where
  cursor : Cursor
  tokens : Array Token
  /-- How many brackets are open. -/
  flow : Nat
  /-- The column of the innermost block, -1 outside of all. -/
  indent : Int
  indents : List Int
  keyAllowed : Bool
  /-- The possible key at the level of the text, and those outside the open brackets. -/
  key : Option KeyPlace
  outerKeys : List (Option KeyPlace)
deriving Repr

namespace Lexer

/-- The most bytes of a key, up to its colon, that needs no mark of its own. -/
def maxKey : Nat := 1024

def ofText (s : List Char) : Lexer where
  cursor := .ofText s
  tokens := #[]
  flow := 0
  indent := -1
  indents := []
  keyAllowed := true
  key := none
  outerKeys := []

def emit (l : Lexer) (t : Token) : Lexer :=
  { l with tokens := l.tokens.push t }

def emitAt (l : Lexer) (n : Nat) (t : Token) : Lexer :=
  { l with tokens := l.tokens.insertIdxIfInBounds n t }

def skip (l : Lexer) (n : Nat) : Lexer :=
  { l with cursor := l.cursor.skip n }

def dropKey (l : Lexer) : Option Lexer :=
  if l.key.any (·.required) then none else some { l with key := none }

def saveKey (l : Lexer) : Option Lexer :=
  if l.keyAllowed then do
    let k := l.cursor
    let l ← l.dropKey
    return { l with
      key := some ⟨l.tokens.size, k.offset, k.line, k.column, l.flow = 0 && l.indent = k.column⟩ }
  else some l

/-- A key that has become too long, or whose line has ended, is given up. -/
def expire (l : Lexer) (key : Option KeyPlace) : Option (Option KeyPlace) :=
  match key with
  | none => some none
  | some p =>
    if p.line < l.cursor.line || p.offset + maxKey < l.cursor.offset then
      if p.required then none else some none
    else some (some p)

def expireKeys (l : Lexer) : Option Lexer := do
  let key ← l.expire l.key
  let outerKeys ← l.outerKeys.mapM l.expire
  return { l with key, outerKeys }

/-- Closes the blocks that are indented by more than `column`. -/
def unroll (l : Lexer) (column : Int) : Lexer :=
  if l.flow > 0 then l else go l.indents l
where
  go : List Int → Lexer → Lexer
    | [], l => l
    | outer :: rest, l =>
      if l.indent > column then go rest { l.emit .blockEnd with indent := outer, indents := rest }
      else l

/-- Opens a block at `column`, unless the text is in one already. -/
def roll (l : Lexer) (column : Nat) (place : Nat) (t : Token) : Lexer :=
  if l.flow = 0 && l.indent < column then
    { l.emitAt place t with indent := column, indents := l.indent :: l.indents }
  else l

/-- Passes white space, comments and breaks. A tab may not stand where a key may. -/
def toToken : Nat → Lexer → Lexer
  | 0, l => l
  | fuel + 1, l =>
    let k := l.cursor
    let k := if k.column = 0 && k.head? = some '\uFEFF' then k.skip 1 else k
    let k := k.skipWhile fun c => c = ' ' || ((l.flow > 0 || !l.keyAllowed) && c = '\t')
    let k := if k.head? = some '#' then k.skipWhile (!isBreak ·) else k
    if k.onBreak then
      toToken fuel { l with cursor := k.takeBreak.2, keyAllowed := l.keyAllowed || l.flow = 0 }
    else { l with cursor := k }

def finish (l : Lexer) : Option Lexer := do
  let l := l.unroll (-1)
  let l ← l.dropKey
  return { l.emit .streamEnd with keyAllowed := false }

def wordHere (k : Cursor) : List Char × Cursor :=
  (k.run isWordChar, k.skipWhile isWordChar)

/-- A version number: up to nine digits on either side of a point. -/
def versionHere (k : Cursor) : Option (Nat × Nat × Cursor) := do
  let k := k.skipWhile isGap
  let (major, k) ← number k
  if k.head? = some '.' then
    let (minor, k) ← number (k.skip 1)
    some (major, minor, k)
  else none
where
  number (k : Cursor) : Option (Nat × Cursor) :=
    let ds := k.run fun c => (digit? c).isSome
    if ds.length > 9 then none else (digits? ds).map (·, k.skip ds.length)

def handleHere (declared : Bool) (k : Cursor) : Option (List Char × Cursor) :=
  if k.head? = some '!' then
    let (w, k) := wordHere (k.skip 1)
    if k.head? = some '!' then some ('!' :: w ++ ['!'], k.skip 1)
    else if declared && w ≠ [] then none
    else some ('!' :: w, k)
  else none

def isTagChar (c : Char) : Bool :=
  isWordChar c || [';', '/', '?', ':', '@', '&', '=', '+', '$', '.', '%', '!', '~', '*', '\'', '(',
    ')'].contains c

def isOpenTagChar (c : Char) : Bool :=
  isTagChar c || c = ',' || c = '[' || c = ']'

def byteWidth? (b : Nat) : Option Nat :=
  if b < 0x80 then some 1
  else if 0xC0 ≤ b && b < 0xE0 then some 2
  else if 0xE0 ≤ b && b < 0xF0 then some 3
  else if 0xF0 ≤ b && b < 0xF8 then some 4
  else none

/-- Bytes of a character written with percent signs, `more` of them after the first. -/
def percentBytes : Option Nat → Nat → Cursor → Option (List Char × Cursor)
  | some 0, _, k => some ([], k)
  | _, 0, _ => none
  | more, fuel + 1, k =>
    match k.rest with
    | '%' :: a :: b :: _ => do
      let n := (← hexDigit? a) * 16 + (← hexDigit? b)
      let left ← match more with
        | none => (byteWidth? n).map (· - 1)
        | some m => if 0x80 ≤ n && n < 0xC0 then some (m - 1) else none
      let (cs, k) ← percentBytes (some left) fuel (k.skip 3)
      some (Char.ofNat n :: cs, k)
    | _ => none

def tagChars (allowed : Char → Bool) : Nat → Cursor → Option (List Char × Cursor)
  | 0, _ => none
  | fuel + 1, k =>
    match k.head? with
    | none => some ([], k)
    | some c =>
      if !allowed c then some ([], k)
      else do
        let (cs, k) ← if c = '%' then percentBytes none 4 k else some ([c], k.skip 1)
        let (rest, k) ← tagChars allowed fuel k
        some (cs ++ rest, k)

/-- A tag, or the rest of it behind `head`, which is not empty together with it. A NUL ends what
the tag says, but not its spelling. -/
def tagText (allowed : Char → Bool) (head : List Char) (k : Cursor) :
    Option (List Char × Cursor) := do
  let (cs, k') ← tagChars allowed (k.rest.length + 1) k
  if head = [] && cs = [] then none
  else some ((head.tail ++ cs).takeWhile (· ≠ '\x00'), k')

def directive (l : Lexer) : Option Lexer := do
  let (name, k) := wordHere (l.cursor.skip 1)
  if name = [] || !k.blankAt 0 then none
  let (t, k) ←
    if name = "YAML".toList then do
      let (major, minor, k) ← versionHere k
      some (Token.version major minor, k)
    else if name = "TAG".toList then do
      let (handle, k) ← handleHere true (k.skipWhile isGap)
      if !k.onGap then none
      let (lead, k) ← tagText isOpenTagChar [] (k.skipWhile isGap)
      if !k.blankAt 0 then none
      some (Token.tagHandle handle lead, k)
    else none
  let k := k.skipWhile isGap
  let k := if k.head? = some '#' then k.skipWhile (!isBreak ·) else k
  if !(k.atEnd || k.onBreak) then none
  return { l.emit t with cursor := k.takeBreak.2 }

def name (l : Lexer) (of : List Char → Token) : Option Lexer := do
  let (w, k) := wordHere (l.cursor.skip 1)
  let ended := k.blankAt 0 ||
    k.head?.any fun c => c = '?' || c = ':' || c = ',' || c = ']' || c = '\x7d' || c = '%' ||
      c = '@' || c = '\x60'
  if w = [] || !ended then none
  return { l.emit (of w) with cursor := k }

def tag (l : Lexer) : Option Lexer := do
  let k := l.cursor
  let (handle, suffix, k) ←
    if k.at? 1 = some '<' then do
      let (suffix, k) ← tagText isOpenTagChar [] (k.skip 2)
      if k.head? ≠ some '>' then none
      some ([], suffix, k.skip 1)
    else do
      let (handle, k) ← handleHere false k
      if handle.length > 1 && handle.getLast? = some '!' then do
        let (suffix, k) ← tagText isTagChar [] k
        some (handle, suffix, k)
      else do
        let (suffix, k) ← tagText isTagChar handle k
        some (if suffix = [] then ([], ['!'], k) else (['!'], suffix, k))
  if !(k.blankAt 0 || (l.flow > 0 && k.head? = some ',')) then none
  return { l.emit (.tag handle suffix) with cursor := k }

def documentMark (l : Lexer) (t : Token) : Option Lexer := do
  let l ← (l.unroll (-1)).dropKey
  return { (l.skip 3).emit t with keyAllowed := false }

def openFlow (l : Lexer) (t : Token) : Option Lexer := do
  let l ← l.saveKey
  return { (l.skip 1).emit t with
    keyAllowed := true, flow := l.flow + 1, key := none, outerKeys := l.key :: l.outerKeys }

def closeFlow (l : Lexer) (t : Token) : Option Lexer := do
  let l ← l.dropKey
  let l := match l.outerKeys with
    | key :: outer => { l with flow := l.flow - 1, key, outerKeys := outer }
    | [] => l
  return { (l.skip 1).emit t with keyAllowed := false }

def blockItem (l : Lexer) (opening t : Token) (keyAfter : Bool) : Option Lexer := do
  let l ←
    if l.flow > 0 then some l
    else if l.keyAllowed then some (l.roll l.cursor.column l.tokens.size opening)
    else none
  let l ← l.dropKey
  return { (l.skip 1).emit t with keyAllowed := keyAfter }

def value (l : Lexer) : Option Lexer := do
  let l ← match l.key with
    | some p =>
      let l := (l.emitAt p.token .key).roll p.column p.token .blockMappingStart
      some { l with key := none, keyAllowed := false }
    | none =>
      if l.flow > 0 then some { l with keyAllowed := false }
      else if l.keyAllowed then
        some (l.roll l.cursor.column l.tokens.size .blockMappingStart)
      else none
  return (l.skip 1).emit .value

def quoted (l : Lexer) (double : Bool) : Option Lexer := do
  let l ← l.saveKey
  let (text, k) ← quotedScalar double l.cursor
  return { l.emit (.scalar text (if double then .double else .single)) with
    cursor := k, keyAllowed := false }

def block (l : Lexer) (literal : Bool) : Option Lexer := do
  let l ← l.dropKey
  let (text, k) ← blockScalar literal l.indent l.cursor
  return { l.emit (.scalar text (if literal then .literal else .folded)) with
    cursor := k, keyAllowed := true }

def plain (l : Lexer) : Option Lexer := do
  let l ← l.saveKey
  let (text, broken, k) ← plainScalar (l.flow > 0) l.indent l.cursor
  return { l.emit (.scalar text .plain) with cursor := k, keyAllowed := broken }

def isIndicator (c : Char) : Bool :=
  ['-', '?', ':', ',', '[', ']', '\x7b', '\x7d', '#', '&', '*', '!', '|', '>', '\'', '"', '%', '@',
    '\x60'].contains c

def next (l : Lexer) : Option Lexer := do
  let k := l.cursor
  let inFlow := l.flow > 0
  let stands := inFlow || k.blankAt 1
  if k.column = 0 && k.head? = some '%' then
    directive { (← (l.unroll (-1)).dropKey) with keyAllowed := false }
  else if k.onRule '-' then l.documentMark .documentStart
  else if k.onRule '.' then l.documentMark .documentEnd
  else
    match k.head? with
    | some '[' => l.openFlow .flowSequenceStart
    | some '\x7b' => l.openFlow .flowMappingStart
    | some ']' => l.closeFlow .flowSequenceEnd
    | some '\x7d' => l.closeFlow .flowMappingEnd
    | some ',' => do
      let l ← l.dropKey
      return { (l.skip 1).emit .flowEntry with keyAllowed := true }
    | some '*' => do name { (← l.saveKey) with keyAllowed := false } .alias
    | some '&' => do name { (← l.saveKey) with keyAllowed := false } .anchor
    | some '!' => do tag { (← l.saveKey) with keyAllowed := false }
    | some '\'' => l.quoted false
    | some '"' => l.quoted true
    | some c =>
      if c = '-' && k.blankAt 1 then l.blockItem .blockSequenceStart .blockEntry true
      else if c = '?' && stands then l.blockItem .blockMappingStart .key (!inFlow)
      else if c = ':' && stands then l.value
      else if c = '|' && !inFlow then l.block true
      else if c = '>' && !inFlow then l.block false
      else if c = '-' || (!inFlow && (c = '?' || c = ':')) then l.plain
      else if isIndicator c || isGap c then none
      else l.plain
    | none => none

def run : Nat → Lexer → Option Lexer
  | 0, _ => none
  | fuel + 1, l => do
    let l := l.toToken (fuel + 1)
    let l ← l.expireKeys
    let l := l.unroll l.cursor.column
    if l.cursor.atEnd then l.finish else run fuel (← l.next)

end Lexer

def tokens? (s : List Char) : Option (List Token) :=
  if s.all isAllowed then ((Lexer.ofText s).run (s.length + 1)).map (·.tokens.toList) else none

end Hotplug.Yaml
