import Hotplug.Text.Printable
/-!
# Quoted text

A text between double quotes, on one line and without invisible characters: tab, carriage return,
line feed, NUL, the quote and the backslash have short escapes, every other character that is not
shown as itself is written by its code point.
-/

namespace Hotplug.Quoted

def escape (c : Char) : List Char :=
  match c with
  | '\x00' => ['\\', '0']
  | '\t' => ['\\', 't']
  | '\r' => ['\\', 'r']
  | '\n' => ['\\', 'n']
  | '"' => ['\\', '"']
  | '\\' => ['\\', '\\']
  | c =>
    if isShown c then [c]
    else ['\\', 'u', '\x7b'] ++ Nat.toDigits 16 c.toNat ++ ['\x7d']

def quote (s : String) : String :=
  String.ofList ('"' :: s.toList.flatMap escape ++ ['"'])

end Hotplug.Quoted
