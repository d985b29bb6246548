import Hotplug.Json.Fault
import Hotplug.Text.Number
import Hotplug.Text.Utf8
/-!
# Strings in JSON

Reading a string from behind its opening quote, and passing over one. An escape by four hexadecimal
digits gives a UTF-16 unit, so a character outside the basic plane is two of them; a half alone is
refused by the reader but passed over.
-/

namespace Hotplug.Json

def unit? (a b c d : Char) : Option Nat := do
  return (((← hexDigit? a) * 16 + (← hexDigit? b)) * 16 + (← hexDigit? c)) * 16 + (← hexDigit? d)

/-- The fault of an escape for which less than four characters are left: the text ends too early
only if they are less than four bytes. -/
def shortEscape (s : List Char) : Fault :=
  if (Utf8.encode s).length < 4 then .truncated else .malformed

def letter? : Char → Option Char
  | '"' => some '"'
  | '\\' => some '\\'
  | '/' => some '/'
  | 'b' => some '\x08'
  | 'f' => some '\x0c'
  | 'n' => some '\n'
  | 'r' => some '\r'
  | 't' => some '\t'
  | _ => none

def push (c : Char) (r : Except Fault (List Char × List Char)) :
    Except Fault (List Char × List Char) :=
  r.map fun (cs, rest) => (c :: cs, rest)

def readString : List Char → Except Fault (List Char × List Char)
  | [] => .error .truncated
  | '"' :: s => .ok ([], s)
  | ['\\'] => .error .truncated
  | '\\' :: 'u' :: a :: b :: c :: d :: s =>
    match unit? a b c d with
    | none => .error .malformed
    | some high =>
      if high < 0xD800 ∨ 0xDFFF < high then push (Char.ofNat high) (readString s)
      else if 0xDC00 ≤ high then .error .malformed
      else
        match s with
        | [] => .error .truncated
        | ['\\'] => .error .truncated
        | '\\' :: 'u' :: a :: b :: c :: d :: s =>
          match unit? a b c d with
          | none => .error .malformed
          | some low =>
            if 0xDC00 ≤ low ∧ low ≤ 0xDFFF then
              push (Char.ofNat (0x10000 + (high - 0xD800) * 0x400 + (low - 0xDC00))) (readString s)
            else .error .malformed
        | '\\' :: 'u' :: s => .error (shortEscape s)
        | _ => .error .malformed
  | '\\' :: 'u' :: s => .error (shortEscape s)
  | '\\' :: c :: s =>
    match letter? c with
    | some c => push c (readString s)
    | none => .error .malformed
  | c :: s => if c.toNat < 0x20 then .error .malformed else push c (readString s)

def skipString : List Char → Except Fault (List Char)
  | [] => .error .truncated
  | '"' :: s => .ok s
  | ['\\'] => .error .truncated
  | '\\' :: 'u' :: a :: b :: c :: d :: s =>
    match unit? a b c d with
    | none => .error .malformed
    | some _ => skipString s
  | '\\' :: 'u' :: s => .error (shortEscape s)
  | '\\' :: c :: s =>
    match letter? c with
    | some _ => skipString s
    | none => .error .malformed
  | c :: s => if c.toNat < 0x20 then .error .malformed else skipString s

end Hotplug.Json
