import Hotplug.Text.Number
import Hotplug.Text.Utf8
/-!
# A place in YAML text

What is left of a text, with the line and the column reached. Columns count characters, offsets
count the bytes of UTF-8. Five characters break lines; a carriage return and the line feed after it
are one break.
-/

namespace Hotplug.Yaml

def isAllowed (c : Char) : Bool :=
  let n := c.toNat
  n = 0x9 || n = 0xA || n = 0xD || (0x20 ≤ n && n ≤ 0x7E) || n = 0x85 || (0xA0 ≤ n && n ≤ 0xD7FF) ||
    (0xE000 ≤ n && n ≤ 0xFFFD) || 0x10000 ≤ n

def isBreak (c : Char) : Bool :=
  c = '\n' || c = '\r' || c = '\u0085' || c = '\u2028' || c = '\u2029'

def isGap (c : Char) : Bool :=
  c = ' ' || c = '\t'

def isWordChar (c : Char) : Bool :=
  c.isAlphanum || c = '_' || c = '-'

structure Cursor where
  rest : List Char
  offset : Nat
  line : Nat
  column : Nat
deriving Repr

namespace Cursor

def ofText (s : List Char) : Cursor := ⟨s, 0, 0, 0⟩

def at? (k : Cursor) (n : Nat) : Option Char := k.rest[n]?

def head? (k : Cursor) : Option Char := k.rest.head?

def atEnd (k : Cursor) : Bool := k.rest.isEmpty

/-- The character `n` places on is a gap or a break, or the text has ended there. -/
def blankAt (k : Cursor) (n : Nat) : Bool :=
  match k.at? n with
  | none => true
  | some c => isGap c || isBreak c

def skip (k : Cursor) (n : Nat) : Cursor :=
  ⟨k.rest.drop n, k.offset + Utf8.size (k.rest.take n), k.line, k.column + n⟩

def skipWhile (k : Cursor) (p : Char → Bool) : Cursor :=
  k.skip (k.rest.takeWhile p).length

def run (k : Cursor) (p : Char → Bool) : List Char :=
  k.rest.takeWhile p

/-- The break at a place, as it counts in a text, and the start of the next line. -/
def takeBreak (k : Cursor) : List Char × Cursor :=
  match k.rest with
  | '\r' :: '\n' :: s => (['\n'], ⟨s, k.offset + 2, k.line + 1, 0⟩)
  | c :: s =>
    if isBreak c then
      (if c = '\u2028' || c = '\u2029' then [c] else ['\n'],
        ⟨s, k.offset + c.utf8Size, k.line + 1, 0⟩)
    else ([], k)
  | [] => ([], k)

def onBreak (k : Cursor) : Bool := k.head?.any isBreak

def onGap (k : Cursor) : Bool := k.head?.any isGap

/-- At a mark of three like characters that stands alone at the start of a line. -/
def onRule (k : Cursor) (c : Char) : Bool :=
  k.column = 0 && k.rest.take 3 == [c, c, c] && k.blankAt 3

def onDocumentMark (k : Cursor) : Bool :=
  k.onRule '-' || k.onRule '.'

end Cursor

end Hotplug.Yaml
